import Considerate.Markup.Form
import Considerate.Markup.Kind
import Considerate.Markup.Link

namespace Considerate.Markup

inductive Container where
  | quote
  /-- A list item whose lines are indented by `size`. One that started `bare`, with nothing behind
  its mark, ends at a blank line. -/
  | item (size : Nat) (bare : Bool)
  | footnote
  deriving DecidableEq, Repr

namespace Container

def kind : Container → Kind
  | quote => .quote
  | item .. => .item
  | footnote => .footnote

/-- The line behind a block quote mark and the one space that may follow it. -/
def behindQuote (d : Dialect) (line : Line) : Option Line :=
  match unindented d line with
  | some (g :: gs) =>
    if g.char = '>' then
      match gs with
      | h :: rest => if isSpace h then some rest else some gs
      | [] => some []
    else none
  | _ => none

def resume (d : Dialect) (c : Container) (line : Line) : Option (Container × Line) :=
  match c with
  | quote => (behindQuote d line).map fun rest => (quote, rest)
  | item size bare =>
    if isBlankLine line then
      if bare then none
      else some (c, line.drop (min size (indentOf line)))
    else if size ≤ indentOf line then some (item size false, line.drop size)
    else none
  | footnote =>
    if isBlankLine line then some (c, line)
    else if tabWidth ≤ indentOf line then some (c, line.drop tabWidth)
    else none

/-- The most digits of the number of a list item. -/
def maxDigits : Nat := 9

/-- The length of the mark of a list item. One that interrupts a paragraph is no number but 1. -/
def markLength (interrupting : Bool) (gs : List Glyph) : Option Nat :=
  match gs with
  | [] => none
  | g :: _ =>
    if g.char = '*' || g.char = '-' then if isRule gs then none else some 1
    else if g.char = '+' then some 1
    else
      let digits := gs.takeWhile (·.char.isDigit)
      let n := digits.length
      let fits := n ≠ 0 && n ≤ maxDigits && (!interrupting || spelling digits = ['1'])
      match gs.drop n with
      | h :: _ => if fits && (h.char = '.' || h.char = ')') then some (n + 1) else none
      | [] => none

def startItem (d : Dialect) (interrupting : Bool) (line : Line) : Option (Container × Line) :=
  match unindented d line with
  | none => none
  | some gs =>
    match markLength interrupting gs with
    | none => none
    | some n =>
      let rest := gs.drop n
      let width := indentOf rest
      let size := indentOf line + n
      if isBlankLine rest then
        if interrupting then none else some (item (size + 1) true, rest)
      else if width = 0 then none
      else if width ≤ tabWidth then some (item (size + width) false, rest.drop width)
      else some (item (size + 1) false, rest.drop 1)

def startFootnote (d : Dialect) (line : Line) : Option (List Char × Line) :=
  if !d.isExtended then none
  else
    match unindented d line with
    | some (g :: h :: gs) =>
      if g.char = '[' && h.char = '^' then
        match labelBody false gs with
        | some (name, colon :: rest) =>
          if colon.char = ':' && !name.isEmpty && name.length ≤ maxLabel && !name.any isGap then
            some (labelKey name, rest.dropWhile isSpace)
          else none
        | _ => none
      else none
    | _ => none

end Container

end Considerate.Markup
