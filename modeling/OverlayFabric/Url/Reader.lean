import OverlayFabric.Url.Basic

/-!
Reading URLs. Blanks and control characters at the ends are dropped, and tabs and line ends everywhere,
though they can end a drive in the path of a file.
-/

namespace OverlayFabric.Url
open Number Text

def isEdge (c : Char) : Bool := c.toNat ≤ 32

def trimEdges (cs : List Char) : List Char :=
  ((cs.dropWhile isEdge).reverse.dropWhile isEdge).reverse

def clean (cs : List Char) : List Char := dropBreaks (trimEdges cs)

def cutOff (separator : Char) (cs : List Char) : List Char × Option (List Char) :=
  match cut? separator cs with
  | some (front, back) => (front, some back)
  | none => (cs, none)

structure Pieces where
  body : List Char
  query : Option (List Char)
  fragment : Option (List Char)

def Pieces.of (cs : List Char) : Pieces :=
  let (front, fragment) := cutOff '#' cs
  let (body, query) := cutOff '?' front
  ⟨body, query, fragment⟩

def isSchemeChar (c : Char) : Bool := c.isAlphanum || c == '+' || c == '-' || c == '.'

def splitScheme? (cs : List Char) : Option (List Char × List Char) :=
  match cut? ':' cs with
  | some (scheme, rest) =>
      if (scheme.head?.any Char.isAlpha) && scheme.all isSchemeChar then
        some (lowerAscii scheme, rest)
      else none
  | none => none

def readPath (scheme cs : List Char) : UrlPath :=
  .segments (follow false [] (splitPath (isSpecial scheme) cs))

def readPort (scheme cs : List Char) : Except UrlError (Option Nat) :=
  if cs.isEmpty then .ok none
  else match valueOf 10 cs with
    | some port =>
        if 65535 < port then .error .badPort
        else .ok (if defaultPort? scheme = some port then none else some port)
    | none => .error .badPort

def cutLast (separator : Char) (cs : List Char) : Option (List Char) × List Char :=
  match cut? separator cs.reverse with
  | some (back, front) => (some front.reverse, back.reverse)
  | none => (none, cs)

def splitHost (inside : Bool) : List Char → List Char × Option (List Char)
  | [] => ([], none)
  | c :: cs =>
      if c = ':' ∧ inside = false then ([], some cs)
      else
        let inside := if c = '[' then true else if c = ']' then false else inside
        let (host, port) := splitHost inside cs
        (c :: host, port)

def readUser (credentials : List Char) : List Char × List Char :=
  let (user, password) := cutOff ':' credentials
  (encodeWith keepsInUser user, encodeWith keepsInUser (password.getD []))

/-- The authority, and what of its text belongs to the path: a port ends at a backslash too. -/
def readAuthority (scheme cs : List Char) : Except UrlError (Authority × List Char) := do
  let (credentials, place) := cutLast '@' cs
  let (user, password) := readUser (credentials.getD [])
  let (hostText, portText) := splitHost false place
  if hostText.isEmpty && isWeb scheme then throw .emptyHost
  let host ← if isWeb scheme then Host.read hostText else Host.readPlain hostText
  if host.isEmpty && portText.isSome then throw .emptyHost
  let isInPort := fun c => c != '\\'
  let port ← readPort scheme ((portText.getD []).takeWhile isInPort)
  if host.isEmpty && !(user.isEmpty && password.isEmpty) then throw .emptyHost
  return ({ user, password, host, port }, (portText.getD []).dropWhile isInPort)

def readFileHost (cs : List Char) : Except UrlError Host := do
  if cs.isEmpty then return .name []
  let host ← Host.read cs
  return if host = .name "localhost".toList then .name [] else host

def cutAtSlash (cs : List Char) : List Char × List Char :=
  (cs.takeWhile (· != '/'), cs.dropWhile (· != '/'))

def filePlace (host : Host) (parts : List (List Char)) : Authority × UrlPath :=
  let host := if meetsDrive [] parts then .name [] else host
  (⟨[], [], host, none⟩, .segments (dropLeadingEmpty (follow true [] parts)))

def readFileParts (place : List Char) (path : List (List Char)) :
    Except UrlError (Authority × UrlPath) := do
  if isDrive (dropBreaks place) then return filePlace (.name []) (place :: path)
  let host ← readFileHost (dropBreaks place)
  if path.isEmpty then return filePlace host [[]]
  return filePlace host (if host.isEmpty then [] :: path else path)

def readFile (cs : List Char) : Except UrlError (Authority × UrlPath) :=
  let parts := pieces '/' (slashes true cs)
  match parts with
  | first :: second :: rest =>
      if !(dropBreaks first).isEmpty then return filePlace (.name []) parts
      else match (dropBreaks second).isEmpty, rest with
        | true, place :: path => readFileParts place path
        | _, _ => return filePlace (.name []) (second :: rest)
  | _ => return filePlace (.name []) parts

def readBody (scheme cs : List Char) (isAll : Bool) :
    Except UrlError (Option Authority × UrlPath) := do
  if isWeb scheme then
    let cs := (slashes true cs).dropWhile (· == '/')
    let (place, path) := cutAtSlash cs
    let (authority, _) ← readAuthority scheme place
    return (some authority, readPath scheme path)
  else if isFile scheme then
    let (authority, path) ← readFile cs
    return (some authority, path)
  else match cs with
    | '/' :: '/' :: rest =>
        let (place, path) := cutAtSlash rest
        -- Empty credentials are let pass only where the URL ends.
        if place = ['@'] ∧ !(path.isEmpty && isAll) then throw .emptyHost
        let (authority, rest) ← readAuthority scheme place
        return (some authority, readPath scheme (rest ++ path))
    | '/' :: _ => return (none, readPath scheme cs)
    | _ => return (none, .whole (encodeWith isPrintable cs))

def readQuery (scheme cs : List Char) : List Char :=
  encodeWith (if isSpecial scheme then keepsInWebQuery else keepsInQuery) cs

def uncleanBody (cs : List Char) : List Char :=
  (Pieces.of ((trimEdges cs).dropWhile (· != ':')).tail).body

def read (cs : List Char) : Except UrlError Url := do
  let some (scheme, rest) := splitScheme? (clean cs) | throw .noScheme
  let pieces := Pieces.of rest
  let isAll := pieces.query.isNone && pieces.fragment.isNone
  let body := if isFile scheme then uncleanBody cs else pieces.body
  let (authority, path) ← readBody scheme body isAll
  return {
    scheme, authority, path, query := pieces.query.map (readQuery scheme),
    fragment := pieces.fragment.map (encodeWith keepsInFragment) }

/-- The URL that a reference leads to from here. The reference begins with the segment of a path: it
takes the place of the last segment here, and of the query and the fragment. -/
def resolve (url : Url) (reference : List Char) : Except UrlError Url :=
  match url.path with
  | .whole _ => .error .notABase
  | .segments segments =>
      let pieces := Pieces.of (clean reference)
      let steps := Text.pieces '/' (slashes (isSpecial url.scheme) pieces.body)
      let isFile := isFile url.scheme
      let reached := follow isFile segments.dropLast.reverse steps
      .ok { url with
        path := .segments (if isFile then dropLeadingEmpty reached else reached)
        query := pieces.query.map (readQuery url.scheme)
        fragment := pieces.fragment.map (encodeWith keepsInFragment) }

end OverlayFabric.Url
