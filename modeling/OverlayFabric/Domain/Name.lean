import OverlayFabric.Domain.Label

namespace OverlayFabric.Domain
open Text

def normal (cs : List Char) : List Char := if cs.all isAscii then cs else compose cs

/-- Dots of any kind end a label; none, however short, is refused for its length. -/
def labels? (cs : List Char) : Option (List Label) :=
  (map? cs).bind fun mapped => (pieces '.' (normal mapped)).mapM Label.read?

def keepsDirections (labels : List Label) : Bool :=
  !labels.any (fun label => label.text.any Label.runsRightToLeft) ||
    labels.all Label.keepsDirection

def toAscii? (cs : List Char) : Option (List Char) :=
  ((labels? cs).filter keepsDirections).map fun labels =>
    ['.'].intercalate (labels.map Label.written)

end OverlayFabric.Domain
