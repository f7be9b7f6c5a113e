import Considerate.Message.Json

namespace Considerate.Protocol

inductive RequestError where
  | invalidRequest
  | unknownMethod (name : String)
  | unsupported
  | invalidParams (reason : String)
  | notInitialized
  | canceled
  deriving DecidableEq, Repr

namespace RequestError

def code : RequestError → Int
  | invalidRequest => -32600
  | unknownMethod _ => -32601
  | unsupported => -32601
  | invalidParams _ => -32602
  | notInitialized => -32002
  | canceled => -32800

def message : RequestError → String
  | invalidRequest => "Invalid request"
  | unknownMethod _ => "Method not found"
  | unsupported => "Method not found"
  | invalidParams reason => reason
  | notInitialized => "Server not initialized"
  | canceled => "Canceled"

def data : RequestError → Option Json
  | unknownMethod name => some (.str name)
  | _ => none

def toJson (e : RequestError) : Json :=
  .obj ([("code", .int e.code)] ++ optionalField "data" id e.data ++ [("message", .str e.message)])

end RequestError

inductive RequestId where
  | number (n : Int)
  | text (s : String)
  deriving DecidableEq, Repr

def RequestId.toJson : RequestId → Json
  | number n => .int n
  | text s => .str s

end Considerate.Protocol
