import OverlayFabric.Fabric.Client
import OverlayFabric.Input

namespace OverlayFabric

inductive ScriptedReply where
  | reply (status : Nat) (body : String)
  | drop
  /-- Announces more of a body than it sends. -/
  | truncate (status : Nat)
  deriving DecidableEq, Repr

def ScriptedReply.read (json : Json) : ScriptedReply :=
  let status := (json.nat? "status").getD 200
  if json.boolAt "drop" then .drop
  else if json.boolAt "truncate" then .truncate status
  else .reply status (((json.field? "json").map Json.text).getD (json.textAt "body"))

structure Script where
  address : Option (Host × Nat)
  replies : List ScriptedReply
  /-- The requests received, the last first. -/
  received : List HttpRequest

namespace Script

def isReachedBy (script : Script) (request : HttpRequest) : Bool :=
  match request.url.authority with
  | some authority =>
      let port := authority.port.orElse fun _ => Url.defaultPort? request.url.scheme
      script.address == port.map fun port => (authority.host, port)
  | none => false

def exhausted : ScriptedReply := .reply 500 "unscripted"

def delivery : ScriptedReply → Delivery
  | .reply status body => .answered status (some body)
  | .drop => .broken "connection closed"
  | .truncate status => .answered status none

def transport : Transport Script := .http {
  deliver := fun request script =>
    if script.address.isSome && script.isReachedBy request then
      (delivery (script.replies.headD exhausted),
        { script with
          replies := script.replies.tail, received := request :: script.received })
    else (.unreachable "connection refused", script) }

end Script

def HttpRequest.contentType (request : HttpRequest) : Option String :=
  request.body.map fun _ => "application/json"

def HttpRequest.encode (request : HttpRequest) : Json :=
  .object [
    ("method", .str (String.ofList request.method.name)),
    ("target", .str (String.ofList request.url.target)),
    ("authorization", .option .str request.authorization),
    ("content_type", .option .str request.contentType),
    ("body", request.body.getD .null)]

end OverlayFabric
