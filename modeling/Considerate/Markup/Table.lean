import Considerate.Markup.Glyph

namespace Considerate.Markup.Table

/-- The stretches between the bars that have no backslash. -/
def split (escaped : Bool) : List Glyph → List (List Glyph)
  | [] => [[]]
  | g :: gs =>
    if g.char = '|' && !escaped then [] :: split false gs
    else
      match split (!escaped && g.char = '\\') gs with
      | [] => [[g]]
      | s :: ss => (g :: s) :: ss

/-- The stretches of a row, less the blanks around them. -/
def stretches (row : Line) : List (List Glyph) := (split false row).map trim

def cells (row : Line) : List (List Glyph) := (stretches row).filter fun c => !c.isEmpty

/-- The stretches of a row without an empty one at its start and its end, where the bars are
optional. -/
def inner (row : Line) : List (List Glyph) :=
  match stretches row with
  | [] => []
  | [s] => [s]
  | s :: ss =>
    let ss := if s.isEmpty then ss else s :: ss
    if ss.getLast?.any List.isEmpty then ss.dropLast else ss

/-- The number of columns of a head row; a bar alone is no row. -/
def columns (row : Line) : Option Nat :=
  if spelling (trim row) = ['|'] then none else some (inner row).length

/-- Whether a stretch is dashes with a colon at either end or none. -/
def isRuling (s : List Glyph) : Bool :=
  let cs := spelling s
  let cs := if cs.head? = some ':' then cs.drop 1 else cs
  let cs := if cs.getLast? = some ':' then cs.dropLast else cs
  !cs.isEmpty && cs.all (· = '-')

/-- The number of columns of a ruling row, which has a bar or a colon. -/
def rulings (row : Line) : Option Nat :=
  let marked := row.any fun g => g.char = '|' || g.char = ':'
  let ss := inner row
  if marked && !ss.isEmpty && ss.all isRuling then some ss.length else none

def isHead (head ruling : Line) : Bool :=
  match columns head, rulings ruling with
  | some n, some m => n = m
  | _, _ => false

end Considerate.Markup.Table
