import Considerate.Json.Decode
import Considerate.Message

namespace Considerate

open Decode

def numberOrNull : Option UInt32 → Json
  | none => .null
  | some n => .int n.toNat

def optionalField {α : Type} (name : String) (f : α → Json) : Option α → List (String × Json)
  | none => []
  | some a => [(name, f a)]

namespace Point

def toJson (p : Point) : Json :=
  .obj [("column", numberOrNull p.column), ("line", numberOrNull p.line)]

def put (p : Point) : String × Json → Except DecodeError Point
  | ("line", v) => (option uint32 v).map fun x => { p with line := x }
  | ("column", v) => (option uint32 v).map fun x => { p with column := x }
  | _ => .ok p

def decode : Decoder Point := record ⟨"struct Point", ["line", "column"], 2⟩ {} put

end Point

namespace Location

def toJson (l : Location) : Json :=
  .obj [("end", l.stop.toJson), ("start", l.start.toJson)]

/-- The fields of a location that have been read. -/
structure Partial where
  start : Option Point := none
  stop : Option Point := none

def put (l : Partial) : String × Json → Except DecodeError Partial
  | ("start", v) => (Point.decode v).map fun x => { l with start := some x }
  | ("end", v) => (Point.decode v).map fun x => { l with stop := some x }
  | _ => .ok l

def decode : Decoder Location := fun j => do
  let l ← record ⟨"struct Location", ["start", "end"], 2⟩ {} put j
  return ⟨← required "start" l.start, ← required "end" l.stop⟩

end Location

namespace Message

def toJson (m : Message) : Json :=
  .obj (
    optionalField "column" (fun n : UInt32 => .int n.toNat) m.column ++
    optionalField "fatal" .bool m.fatal ++
    optionalField "line" (fun n : UInt32 => .int n.toNat) m.line ++
    [("location", m.location.toJson), ("reason", .str m.reason), ("rule_id", .str m.ruleId)])

/-- The fields of a message that have been read. -/
structure Partial where
  reason : Option String := none
  ruleId : Option String := none
  fatal : Option Bool := none
  line : Option UInt32 := none
  column : Option UInt32 := none
  location : Location := {}

def put (m : Partial) : String × Json → Except DecodeError Partial
  | ("reason", v) => (string v).map fun x => { m with reason := some x }
  | ("rule_id", v) => (string v).map fun x => { m with ruleId := some x }
  | ("fatal", v) => (option bool v).map fun x => { m with fatal := x }
  | ("line", v) => (option uint32 v).map fun x => { m with line := x }
  | ("column", v) => (option uint32 v).map fun x => { m with column := x }
  | ("location", v) => (Location.decode v).map fun x => { m with location := x }
  | _ => .ok m

def shape : Shape :=
  ⟨"struct Message", ["reason", "rule_id", "fatal", "line", "column", "location"], 5⟩

def decode : Decoder Message := fun j => do
  let m ← record shape {} put j
  return {
    reason := ← required "reason" m.reason
    ruleId := ← required "rule_id" m.ruleId
    fatal := m.fatal
    line := m.line
    column := m.column
    location := m.location }

end Message

end Considerate
