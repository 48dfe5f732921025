import OverlayFabric.Url.Host
import OverlayFabric.Url.Path

namespace OverlayFabric
open Number

structure Authority where
  user : List Char
  password : List Char
  host : Host
  /-- Left out when it is the usual one of the scheme. -/
  port : Option Nat
  deriving DecidableEq, Repr

structure Url where
  scheme : List Char
  authority : Option Authority
  path : UrlPath
  query : Option (List Char)
  fragment : Option (List Char)
  deriving DecidableEq, Repr

structure Credentials where
  user : List UInt8
  password : List UInt8
  deriving DecidableEq, Repr

namespace Authority

def credentialsText (authority : Authority) : List Char :=
  if authority.user.isEmpty && authority.password.isEmpty then []
  else if authority.password.isEmpty then authority.user ++ ['@']
  else authority.user ++ ':' :: authority.password ++ ['@']

def portText (authority : Authority) : List Char :=
  match authority.port with
  | some port => ':' :: decimal port
  | none => []

def text (authority : Authority) : List Char :=
  '/' :: '/' :: authority.credentialsText ++ authority.host.text ++ authority.portText

end Authority

namespace Url

def web : List (String × Nat) := [("ftp", 21), ("http", 80), ("https", 443), ("ws", 80), ("wss", 443)]

def defaultPort? (scheme : List Char) : Option Nat :=
  (web.find? fun entry => entry.1.toList == scheme).map Prod.snd

def isFile (scheme : List Char) : Bool := scheme == "file".toList

def isWeb (scheme : List Char) : Bool := (defaultPort? scheme).isSome

def isSpecial (scheme : List Char) : Bool := isWeb scheme || isFile scheme

def queryText (url : Url) : List Char :=
  match url.query with
  | some query => '?' :: query
  | none => []

def fragmentText (url : Url) : List Char :=
  match url.fragment with
  | some fragment => '#' :: fragment
  | none => []

/-- Without an authority, a path that begins with two slashes needs a dot between scheme and path. -/
def authorityText (url : Url) : List Char :=
  match url.authority, url.path with
  | some authority, _ => authority.text
  | none, .segments ([] :: _ :: _) => ['/', '.']
  | none, _ => []

def text (url : Url) : List Char :=
  url.scheme ++ ':' :: url.authorityText ++ url.path.text ++ url.queryText ++ url.fragmentText

instance : ToString Url := ⟨fun url => String.ofList url.text⟩

/-- The name and the password that a URL gives, if the name is a text; a password that is none does
not count. -/
def credentials? (url : Url) : Option Credentials :=
  url.authority.bind fun authority =>
    (decodeText? authority.user).bind fun _ =>
      let password := (decodeText? authority.password).map fun _ => percentDecode authority.password
      let credentials : Credentials := ⟨percentDecode authority.user, password.getD []⟩
      if credentials.user.isEmpty && credentials.password.isEmpty then none else some credentials

def withoutCredentials (url : Url) : Url :=
  if url.credentials?.isSome then
    { url with authority := url.authority.map fun authority =>
        { authority with user := [], password := [] } }
  else url

def target (url : Url) : List Char := url.path.text ++ url.queryText

def directory (url : Url) : Url :=
  if url.path.endsInSlash then url
  else
    let path := match url.path with
      | .whole text => .whole (text ++ ['/'])
      | .segments segments =>
          if isFile url.scheme then .segments (follow true [] (segments ++ [[]]))
          else .segments (segments ++ [[]])
    { url with path }

def addQuery (url : Url) (name value : String) : Url :=
  let pair := encodeForm name.toList ++ '=' :: encodeForm value.toList
  let query := match url.query with
    | some query => if query.isEmpty then pair else query ++ '&' :: pair
    | none => pair
  { url with query := some query }

end Url
end OverlayFabric
