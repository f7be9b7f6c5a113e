import Considerate.Text.Offset

namespace Considerate.Markup

/-- A character, its bytes in the document, and its neighbours there. -/
structure Glyph where
  char : Char
  start : Nat
  stop : Nat
  before : Option Char
  after : Option Char
  deriving DecidableEq, Repr

abbrev Line := List Glyph

/-- The columns from one tab stop to the next. -/
def tabWidth : Nat := 4

/-- The glyphs of `cs`, which starts at byte `offset` in column `column` and follows `before`. -/
def glyphsFrom (offset column : Nat) (before : Option Char) : List Char → List Glyph
  | [] => []
  | '\r' :: '\n' :: cs =>
    ⟨'\n', offset, offset + 2, before, cs.head?⟩ :: glyphsFrom (offset + 2) 0 (some '\n') cs
  | c :: cs =>
    let next := offset + c.utf8Size
    if c = '\n' || c = '\r' then
      ⟨'\n', offset, next, before, cs.head?⟩ :: glyphsFrom next 0 (some c) cs
    else if c = '\t' then
      let width := tabWidth - column % tabWidth
      ⟨'\t', offset, next, before, cs.head?⟩ ::
        (List.replicate (width - 1) ⟨' ', next, next, some c, cs.head?⟩ ++
          glyphsFrom next (column + width) (some c) cs)
    else ⟨c, offset, next, before, cs.head?⟩ :: glyphsFrom next (column + c.utf8Size) (some c) cs

/-- The mark that may stand before a text and is no part of it. -/
def byteOrderMark : Char := '\uFEFF'

/-- The glyphs of a document, less a byte order mark at its start. -/
def glyphs : List Char → List Glyph
  | [] => []
  | c :: cs =>
    if c = byteOrderMark then glyphsFrom c.utf8Size c.utf8Size (some c) cs
    else glyphsFrom 0 0 none (c :: cs)

def linesOf : List Glyph → List Line
  | [] => []
  | g :: gs =>
    if g.char = '\n' then [g] :: linesOf gs
    else
      match linesOf gs with
      | [] => [[g]]
      | line :: lines => (g :: line) :: lines

def body (line : Line) : List Glyph := line.filter (·.char ≠ '\n')

def isSpace (g : Glyph) : Bool := g.char = ' ' || g.char = '\t'

def isLineEnd (g : Glyph) : Bool := g.char = '\n'

/-- Space, tab or line end. -/
def isGap (g : Glyph) : Bool := isSpace g || isLineEnd g

def isBlankLine (line : Line) : Bool := line.all isGap

def spelling (gs : List Glyph) : List Char := gs.map (·.char)

/-- The offset at which `gs` starts, or `fallback` if it is empty. -/
def startOf (fallback : Nat) : List Glyph → Nat
  | [] => fallback
  | g :: _ => g.start

def stopOf (fallback : Nat) (gs : List Glyph) : Nat :=
  match gs.getLast? with
  | none => fallback
  | some g => g.stop

def trimEnd (gs : List Glyph) : List Glyph := (gs.reverse.dropWhile isGap).reverse

/-- `gs` without the blanks at both ends. -/
def trim (gs : List Glyph) : List Glyph := trimEnd (gs.dropWhile isGap)

end Considerate.Markup
