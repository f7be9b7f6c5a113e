import Considerate.Message.Json
import Considerate.Url.Json

namespace Considerate

/-- What a pass was asked for. -/
structure Options where
  fix : Bool := false
  format : Bool := false
  deriving DecidableEq, Repr

/-- Where a pass stands. -/
inductive Phase where
  | start
  | startFix
  | startFormat
  | error
  | stop
  deriving DecidableEq, Repr

namespace Phase

def all : List Phase := [.start, .startFix, .startFormat, .error, .stop]

def name : Phase → String
  | .start => "lint.start"
  | .startFix => "lint.start.fix"
  | .startFormat => "lint.start.format"
  | .error => "lint.error"
  | .stop => "lint.end"

def ofOptions (o : Options) : Phase :=
  if o.fix then .startFix else if o.format then .startFormat else .start

end Phase

structure Status where
  id : UInt64
  phase : Phase
  documents : List Url
  fileName : Option String := none
  elapsed : Option UInt64 := none
  deriving DecidableEq, Repr

namespace Status

open Decode

def toJson (s : Status) : Json :=
  .obj (
    [("documents", .arr (s.documents.map fun u => .obj [("documentUri", u.toJson)])),
      ("id", .int s.id.toNat)] ++
    optionalField "lastFileName" .str s.fileName ++
    optionalField "lastLintTimeMs" (fun n : UInt64 => .int n.toNat) s.elapsed ++
    [("state", .str s.phase.name)])

def putUrl (u : Option Url) : String × Json → Except DecodeError (Option Url)
  | ("documentUri", v) => (Url.decode v).map some
  | _ => .ok u

def decodeDocument : Decoder Url := fun j => do
  required "documentUri" (← record ⟨"struct StatusDocument", ["documentUri"], 1⟩ none putUrl j)

/-- The fields of a status that have been read. -/
structure Partial where
  id : Option UInt64 := none
  phase : Option Phase := none
  documents : Option (List Url) := none
  fileName : Option String := none
  elapsed : Option UInt64 := none

def put (s : Partial) : String × Json → Except DecodeError Partial
  | ("id", v) => (uint64 v).map fun x => { s with id := some x }
  | ("state", v) => (variant Phase.all Phase.name v).map fun x => { s with phase := some x }
  | ("documents", v) => (Decode.list decodeDocument v).map fun x => { s with documents := some x }
  | ("lastFileName", v) => (option string v).map fun x => { s with fileName := x }
  | ("lastLintTimeMs", v) => (option uint64 v).map fun x => { s with elapsed := x }
  | _ => .ok s

def shape : Shape :=
  ⟨"struct StatusParams", ["id", "state", "documents", "lastFileName", "lastLintTimeMs"], 5⟩

def decode : Decoder Status := fun j => do
  let s ← record shape {} put j
  return {
    id := ← required "id" s.id
    phase := ← required "state" s.phase
    documents := ← required "documents" s.documents
    fileName := s.fileName
    elapsed := s.elapsed }

end Status

end Considerate
