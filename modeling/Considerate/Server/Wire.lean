import Considerate.Json.Reader
import Considerate.Server.Receive

namespace Considerate.Server

open Protocol

/-- What the editor sends. -/
inductive Packet where
  | message (m : Incoming)
  | answer (id : RequestId) (result : Option Json)

namespace Packet

/-- The id under a JSON object's key `id`. -/
def idOf (j : Json) : Option RequestId :=
  match j.get? "id" with
  | some (.int n) => some (.number n)
  | some (.str s) => some (.text s)
  | _ => none

/-- Reads a packet: one that has a method is a message. -/
def ofJson (j : Json) : Option Packet :=
  match j.get? "method" with
  | some (.str method) => some (.message { method, params := j.get? "params", id := idOf j })
  | _ => (idOf j).map fun id => .answer id (j.get? "result")

def ofText (text : String) : Option Packet :=
  match Json.read text with
  | .ok (some j) => ofJson j
  | _ => none

end Packet

/-- What is written on every packet. -/
def versionField : String × Json := ("jsonrpc", .str "2.0")

def answerText (id : RequestId) (result : Except RequestError Json) : String :=
  let field :=
    match result with
    | .ok v => ("result", v)
    | .error e => ("error", e.toJson)
  Json.compact (.obj [("id", id.toJson), versionField, field])

def messageText (number : Option Nat) (m : Protocol.Message) : String :=
  Json.compact (.obj (optionalField "id" (fun n : Nat => .int n) number ++
    [versionField, ("method", .str m.method), ("params", m.params)]))

end Considerate.Server
