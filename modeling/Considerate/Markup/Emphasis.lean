import Considerate.Markup.Dialect
import Considerate.Markup.Glyph
import Considerate.Markup.Kind
import Considerate.Text.Blank
import Considerate.Text.Punctuation

namespace Considerate.Markup

open Text

/-- What a character beside a run is: the end of a text counts as blank. -/
inductive Side where
  | blank
  | punctuation
  | other
  deriving DecidableEq, Repr

def sideOf : Option Char → Side
  | none => .blank
  | some c => if isBlank c then .blank else if isPunctuation c then .punctuation else .other

/-- Adjacent marks of one kind. Those from `start` to `stop` are free; `closings` and `openings`
are what the marks before and after them close and open, in document order. -/
structure Run where
  marker : Char
  start : Nat
  stop : Nat
  opens : Bool
  closes : Bool
  closings : List Kind := []
  openings : List Kind := []
  deriving DecidableEq, Repr

namespace Run

def size (r : Run) : Nat := r.stop - r.start

/-- Whether `c` is another mark that a run of `marker` may stand against. -/
def isNeighbour (d : Dialect) (marker : Char) (c : Option Char) : Bool :=
  marker ≠ '~' && (c = some '*' || c = some '_' || (d.isExtended && c = some '~'))

def between (d : Dialect) (marker : Char) (start stop : Nat) (before after : Option Char) : Run :=
  let left := sideOf before
  let right := sideOf after
  let opens := right = .other || (right = .punctuation && left ≠ .other) ||
    isNeighbour d marker after
  let closes := left = .other || (left = .punctuation && right ≠ .other) ||
    isNeighbour d marker before
  if marker = '_' then
    { marker, start, stop, opens := opens && (left ≠ .other || !closes),
      closes := closes && (right ≠ .other || !opens) }
  else { marker, start, stop, opens, closes }

/-- Whether the sizes of two runs keep them apart: one that could do both, and a sum divisible
by three that is not made of parts divisible by three. -/
def clashes (opener closer : Run) : Bool :=
  (opener.closes || closer.opens) && closer.size % 3 ≠ 0 && (opener.size + closer.size) % 3 = 0

def opensFor (opener closer : Run) : Bool :=
  opener.opens && opener.marker = closer.marker && 0 < opener.size && 0 < closer.size &&
    !clashes opener closer &&
    (opener.marker ≠ '~' || (opener.size = closer.size && opener.size ≤ 2))

/-- The marks that two runs use on each other. -/
def shared (opener closer : Run) : Nat := if 1 < opener.size && 1 < closer.size then 2 else 1

def kindOf (marker : Char) (n : Nat) : Kind :=
  if marker = '~' then .deleted else if n = 2 then .strong else .emphasis

/-- `opened` with the nearest run that opens for `closer` opened, and the number of marks used.
The runs on the way open nothing any more. -/
def linkBack (closer : Run) : List Run → Option (List Run × Nat)
  | [] => none
  | r :: rs =>
    if r.opensFor closer then
      let n := r.shared closer
      some ({ r with stop := r.stop - n, openings := kindOf r.marker n :: r.openings } :: rs, n)
    else
      match linkBack closer rs with
      | none => none
      | some (rs, n) => some ({ r with opens := false } :: rs, n)

/-- Closes with `closer` as often as runs before it open, at most `n` times. -/
def close : Nat → List Run → Run → List Run × Run
  | 0, before, closer => (before, closer)
  | n + 1, before, closer =>
    match linkBack closer before with
    | none => (before, closer)
    | some (before, used) =>
      close n before { closer with
        start := closer.start + used, closings := closer.closings ++ [kindOf closer.marker used] }

/-- Settles the runs in order; `before` are those settled, last first. -/
def settleFrom (before : List Run) : List Run → List Run
  | [] => before.reverse
  | r :: rs =>
    if r.closes then
      match close r.size before r with
      | (before, r) => settleFrom (r :: before) rs
    else settleFrom (r :: before) rs

/-- The runs of one stretch of text with what each of them opens and closes. -/
def settle (rs : List Run) : List Run := settleFrom [] rs

end Run

end Considerate.Markup
