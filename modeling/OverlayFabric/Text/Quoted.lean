import OverlayFabric.Number.Radix
import OverlayFabric.Text.Invisible

namespace OverlayFabric.Text
open Number

def visible (c : Char) : List Char :=
  if c = '"' then ['\\', '"']
  else if c = '\\' then ['\\', '\\']
  else if c = '\n' then ['\\', 'n']
  else if c = '\r' then ['\\', 'r']
  else if c = '\t' then ['\\', 't']
  else if c.toNat = 0 then ['\\', '0']
  else if isInvisible c then '\\' :: 'u' :: '{' :: numeral 16 c.toNat ++ ['}']
  else [c]

def quoted (text : String) : List Char := '"' :: text.toList.flatMap visible ++ ['"']

def quotedList (texts : List String) : String :=
  String.ofList ('[' :: [',', ' '].intercalate (texts.map quoted) ++ [']'])

end OverlayFabric.Text
