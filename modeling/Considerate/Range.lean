import Considerate.Message.Json

namespace Considerate

structure Position where
  line : UInt32
  character : UInt32
  deriving DecidableEq, Repr

structure Range where
  start : Position
  stop : Position
  deriving DecidableEq, Repr

open Decode

namespace Position

def le (p q : Position) : Bool :=
  p.line < q.line || (p.line = q.line && p.character ≤ q.character)

def toJson (p : Position) : Json :=
  .obj [("character", .int p.character.toNat), ("line", .int p.line.toNat)]

/-- The fields of a position that have been read. -/
structure Partial where
  line : Option UInt32 := none
  character : Option UInt32 := none

def put (p : Partial) : String × Json → Except DecodeError Partial
  | ("line", v) => (uint32 v).map fun x => { p with line := some x }
  | ("character", v) => (uint32 v).map fun x => { p with character := some x }
  | _ => .ok p

def decode : Decoder Position := fun j => do
  let p ← record ⟨"struct Position", ["line", "character"], 2⟩ {} put j
  return ⟨← required "line" p.line, ← required "character" p.character⟩

end Position

namespace Range

/-- Whether two ranges share a position; ranges that touch do. -/
def overlaps (a b : Range) : Bool := a.start.le b.stop && b.start.le a.stop

def nextLine (r : Range) : Range :=
  ⟨{ r.start with line := r.start.line + 1 }, { r.stop with line := r.stop.line + 1 }⟩

def toJson (r : Range) : Json := .obj [("end", r.stop.toJson), ("start", r.start.toJson)]

/-- The fields of a range that have been read. -/
structure Partial where
  start : Option Position := none
  stop : Option Position := none

def put (r : Partial) : String × Json → Except DecodeError Partial
  | ("start", v) => (Position.decode v).map fun x => { r with start := some x }
  | ("end", v) => (Position.decode v).map fun x => { r with stop := some x }
  | _ => .ok r

def decode : Decoder Range := fun j => do
  let r ← record ⟨"struct Range", ["start", "end"], 2⟩ {} put j
  return ⟨← required "start" r.start, ← required "end" r.stop⟩

end Range

/-- A replacement of a stretch of text. -/
structure Edit where
  range : Range
  newText : String
  deriving DecidableEq, Repr

def Edit.toJson (e : Edit) : Json :=
  .obj [("newText", .str e.newText), ("range", e.range.toJson)]

end Considerate
