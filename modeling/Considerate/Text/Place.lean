import Considerate.Text.Offset

namespace Considerate.Text

/-- A line and a column, both from 1. -/
structure Place where
  line : Nat
  column : Nat
  deriving DecidableEq, Repr

/-- The number of UTF-16 code units of `c`. -/
def units (c : Char) : Nat := if c.toNat < 0x10000 then 1 else 2

def Place.step (p : Place) (c : Char) : Place :=
  if c = '\n' then ⟨p.line + 1, 1⟩
  else if c = '\r' then p
  else ⟨p.line, p.column + units c⟩

/-- The place `offset` bytes into `cs`, which starts at `p`. -/
def Place.advance (p : Place) : List Char → Nat → Option Place
  | _, 0 => some p
  | [], _ + 1 => none
  | c :: cs, n + 1 =>
    if c.utf8Size ≤ n + 1 then (p.step c).advance cs (n + 1 - c.utf8Size) else none

/-- The place of a byte offset; none when it is past the end or inside a character. -/
def placeAt (cs : List Char) (offset : Nat) : Option Place :=
  Place.advance ⟨1, 1⟩ cs offset

/-- The number of lines of a text: one more than its line feeds. -/
def lineCount (cs : List Char) : Nat := cs.count '\n' + 1

end Considerate.Text
