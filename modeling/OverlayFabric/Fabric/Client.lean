import OverlayFabric.Fabric.Error
import OverlayFabric.Fabric.Request
import OverlayFabric.Fabric.Retry
import OverlayFabric.Json.Direct
import OverlayFabric.Json.Printer
import OverlayFabric.Text.Base64
import OverlayFabric.Url.Reader

namespace OverlayFabric
open Text

structure HttpRequest where
  method : HttpMethod
  url : Url
  authorization : Option String
  body : Option Json

inductive Delivery where
  /-- No connection came about, or not in time. -/
  | unreachable (reason : String)
  | broken (reason : String)
  /-- A response with its status; its body is missing when it could not be read. -/
  | answered (status : Nat) (body : Option String)
  deriving DecidableEq, Repr

structure Transport (τ : Type) where
  deliver : HttpRequest → StateM τ Delivery

namespace HttpRequest

/-- The most characters of a URL to ask for, not counting its credentials. -/
def urlLimit : Nat := 65534

def isNameable (c : Char) : Bool := ! (['"', '{', '}'].contains c) && c.toNat != 96

def isSendable (request : HttpRequest) : Bool :=
  (request.url.scheme == "http".toList || request.url.scheme == "https".toList) &&
    request.url.authority.any (fun authority =>
      !authority.host.isEmpty && authority.host.text.all isNameable) &&
    request.url.withoutCredentials.text.length ≤ urlLimit

end HttpRequest

/-- The way of HTTP: what it cannot ask for does not get on the way. -/
def Transport.http {τ : Type} (transport : Transport τ) : Transport τ where
  deliver request :=
    if request.isSendable then transport.deliver request
    else pure (.broken "no request can be sent to the URL")

abbrev Exchange (τ α : Type) := ExceptT FabricError (StateM τ) α

structure Client where
  base : Url
  username : String
  password : String
  dryRun : Bool
  retry : RetryPolicy

namespace Client

variable {τ : Type}

def ofSettings (settings : ControllerSettings) : Except FabricError Client :=
  match Url.read settings.authUri.toList with
  | .error e =>
      .error (.invalidRequest s!"invalid auth_uri '{settings.authUri}': {e.message}")
  | .ok base => .ok {
      base := base.directory, username := settings.username, password := settings.password,
      dryRun := settings.dryRun, retry := .ofSettings settings }

def urlOf (client : Client) (path : String) : Except FabricError Url :=
  match client.base.resolve ("v2.0/" ++ path).toList with
  | .ok url => .ok url
  | .error e => .error (.invalidRequest s!"invalid path '{path}': {e.message}")

def basic (credentials : Credentials) : String :=
  "Basic " ++
    String.ofList (base64 (credentials.user ++ ':'.toNat.toUInt8 :: credentials.password))

def authorization (client : Client) (url : Url) : Option String :=
  if client.username ≠ "" then
    some (basic ⟨client.username.toUTF8.toList, client.password.toUTF8.toList⟩)
  else url.credentials?.map basic

def isSuccess (status : Nat) : Bool := 200 ≤ status && status < 300

def textOf (url : String) (status : Nat) (body : Option String) : Except FabricError String :=
  match body with
  | none => .error (.undecodable url "the body of the response could not be read")
  | some text => if isSuccess status then .ok text else .error (.refused status url text)

def deliver (transport : Transport τ) (request : HttpRequest) (attempt : Nat) (reason : String) :
    Nat → Exchange τ String
  | 0 => throw (.connectionFailed (toString request.url) attempt reason)
  | left + 1 => do
      match ← transport.deliver request with
      | .answered status body =>
          match textOf (toString request.url) status body with
          | .ok text => return text
          | .error e => throw e
      | .broken reason =>
          throw (.connectionFailed (toString request.url) (attempt + 1) reason)
      | .unreachable reason => deliver transport request (attempt + 1) reason left

def send (client : Client) (transport : Transport τ) (method : HttpMethod) (url : Url)
    (body : Option Json) : Exchange τ String :=
  deliver transport ⟨method, url, client.authorization url, body⟩ 0 "" (client.retry.attempts method)

def identifier : Json → String
  | .str text => text
  | json => json.text

def readDevice (depth : Nat) : Json.Reader Json := fun cs => do
  let (id, rest) ← Json.readSole "id" Json.readAny depth cs
  id.map fun id => (id, rest)

def readDevices (depth : Nat) : Json.Reader (List Json) := fun cs => do
  let (devices, rest) ← Json.readSole "devices" (Json.readList readDevice) depth cs
  return (devices.getD [], rest)

def devicesOf? (text : String) : Option (List Json) := Json.readWhole readDevices text

def deviceId (client : Client) (transport : Transport τ) (switch : String) : Exchange τ String := do
  let url ← ExceptT.mk (pure (client.urlOf "devices"))
  let url := url.addQuery "ip_address" switch
  let text ← client.send transport .get url none
  match devicesOf? text with
  | none => throw (.undecodable (toString url) "the response is no list of devices")
  | some [] => throw (.switchNotFound switch)
  | some (device :: _) => return identifier device

def perform (client : Client) (transport : Transport τ) (switch action : String) (body : Json) :
    Exchange τ Unit := do
  if client.dryRun then return
  let device ← client.deviceId transport switch
  let url ← ExceptT.mk (pure (client.urlOf s!"devices/{device}/{action}"))
  let _ ← client.send transport .put url (some body)

def call (client : Client) (transport : Transport τ) : Call → Exchange τ Unit
  | .pushL2 request =>
      client.perform transport request.switch "neutron_create_network" request.body
  | .retractL2 request =>
      client.perform transport request.switch "neutron_delete_network" request.body
  | .pushVrf request =>
      if request.mode.isPush then
        client.perform transport request.switch request.mode.action request.body
      else throw (.invalidRequest s!"{request.mode.name} is not a push mode")
  | .retractVrf request =>
      if request.mode.isPush then
        throw (.invalidRequest s!"{request.mode.name} is not a retract mode")
      else client.perform transport request.switch request.mode.action request.body

end Client
end OverlayFabric
