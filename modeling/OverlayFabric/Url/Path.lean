import OverlayFabric.Text.Blank
import OverlayFabric.Url.Encode

/-!
Paths of URLs. Most are a list of segments, each after a slash; a path that does not begin with a slash
is one whole, and nothing can be relative to it. The segments `.` and `..` are followed, plain or
percent-encoded. Tabs and line ends do not count, except that one after a drive ends the drive.
-/

namespace OverlayFabric
open Text

inductive UrlPath where
  | whole (text : List Char)
  | segments (segments : List (List Char))
  deriving DecidableEq, Repr

namespace UrlPath

def text : UrlPath → List Char
  | .whole text => text
  | .segments parts => parts.flatMap fun segment => '/' :: segment

def endsInSlash (path : UrlPath) : Bool := path.text.getLast? == some '/'

end UrlPath

namespace Url

def isBreak (c : Char) : Bool := c == '\t' || c == '\n' || c == '\r'

def dropBreaks (cs : List Char) : List Char := cs.filter (!isBreak ·)

def isSingleDot (segment : List Char) : Bool :=
  [".", "%2e"].any fun dot => dot.toList == lowerAscii segment

def isDoubleDot (segment : List Char) : Bool :=
  ["..", ".%2e", "%2e.", "%2e%2e"].any fun dots => dots.toList == lowerAscii segment

def isDrive : List Char → Bool
  | [letter, mark] => letter.isAlpha && (mark == ':' || mark == '|')
  | _ => false

/-- Two dots do not lead out of a drive. -/
def keepsFromDots (segment : List Char) : Bool :=
  isDrive (segment.take 2) && (segment.drop 2).head?.all (· == '\\')

def markDrive (segment : List Char) : List Char :=
  if isDrive segment then segment.take 1 ++ [':'] else segment

def cutDrive? (segment : List Char) : Option (List Char × List Char) :=
  match cut? ':' segment with
  | some (letter, rest) =>
      let drive := dropBreaks letter ++ [':']
      let rest' := dropBreaks rest
      if isDrive drive && rest.head?.any isBreak && !rest'.isEmpty then some (drive, rest') else none
  | none => none

/-- The first segment of the path of a file, or the two that it stands for, the last first. What
follows a drive is not looked at for dots. -/
def enterFile (segment : List Char) : List (List Char) :=
  match cutDrive? segment with
  | some (drive, rest) => [encodeWith keepsInPath rest, drive]
  | none => [markDrive (encodeWith keepsInPath (dropBreaks segment))]

def isDots (segment : List Char) : Bool := isDoubleDot segment || isSingleDot segment

/-- Where a segment leads to from a place in the path. A place is given by its segments, the last
first. -/
def step (isFile : Bool) (above : List (List Char)) (segment : List Char) : List (List Char) :=
  let name := dropBreaks segment
  if isDoubleDot name then
    if above.head?.any keepsFromDots then above else above.tail
  else if isSingleDot name then above
  else if isFile && above.isEmpty then enterFile segment
  else encodeWith keepsInPath name :: above

def follow (isFile : Bool) (above : List (List Char)) : List (List Char) → List (List Char)
  | [] => above.reverse
  | segment :: rest =>
      let above := step isFile above segment
      follow isFile (if rest.isEmpty && isDots (dropBreaks segment) then [] :: above else above) rest

def meetsDrive (above : List (List Char)) : List (List Char) → Bool
  | [] => false
  | segment :: rest =>
      above.isEmpty && isDrive (dropBreaks segment) || meetsDrive (step true above segment) rest

def slashes (special : Bool) (cs : List Char) : List Char :=
  if special then cs.map fun c => if c = '\\' then '/' else c else cs

def splitPath (special : Bool) (cs : List Char) : List (List Char) :=
  match slashes special cs with
  | '/' :: rest => pieces '/' rest
  | [] => if special then [[]] else []
  | rest => pieces '/' rest

def dropLeadingEmpty : List (List Char) → List (List Char)
  | [] :: next :: rest => dropLeadingEmpty (next :: rest)
  | segments => segments

end Url
end OverlayFabric
