namespace Considerate.Text

/-- The code points from `first` to `last`, which share the property value `value`. -/
structure CodeRange (α : Type) where
  first : Nat
  last : Nat
  value : α

/-- Searches positions `lo` to `hi` (exclusive) of a sorted table for the range that holds `code`. -/
def searchBetween {α : Type} (table : Array (CodeRange α)) (code lo hi : Nat) : Option α :=
  if lo < hi then
    let mid := (lo + hi) / 2
    match table[mid]? with
    | none => none
    | some r =>
      if code < r.first then searchBetween table code lo mid
      else if r.last < code then searchBetween table code (mid + 1) hi
      else some r.value
  else none
termination_by hi - lo

def search {α : Type} (table : Array (CodeRange α)) (code : Nat) : Option α :=
  searchBetween table code 0 table.size

/-- A table of a yes/no property, from pairs of first and last code point. -/
def rangeSet (pairs : Array (Nat × Nat)) : Array (CodeRange Unit) :=
  pairs.map fun (first, last) => ⟨first, last, ()⟩

def holds (table : Array (CodeRange Unit)) (code : Nat) : Bool :=
  (search table code).isSome

end Considerate.Text
