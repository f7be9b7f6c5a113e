import Considerate.Markup.Dialect
import Considerate.Markup.HtmlBlock

namespace Considerate.Markup

inductive Form where
  | blank
  | code
  | fence (mark : Char) (size : Nat)
  | html (block : HtmlBlock)
  | heading (text : List Glyph)
  | underline
  | rule
  | text
  deriving DecidableEq

def indentOf (line : Line) : Nat := (line.takeWhile isSpace).length

/-- The line behind the blanks it starts with, if its dialect allows so many. -/
def unindented (d : Dialect) (line : Line) : Option Line :=
  if d.allowsIndent (indentOf line) then some (line.dropWhile isSpace) else none

/-- Whether `gs` is a run of at least `least` of `mark`, with blanks between them if `spaced` and
at the end. -/
def isRunOf (spaced : Bool) (mark : Char) (least : Nat) (gs : List Glyph) : Bool :=
  if spaced then
    gs.all (fun g => g.char = mark || isGap g) && least ≤ (gs.filter (·.char = mark)).length
  else
    least ≤ (gs.takeWhile (·.char = mark)).length && isBlankLine (gs.dropWhile (·.char = mark))

/-- Whether `gs`, behind its indent, is a thematic break. -/
def isRule (gs : List Glyph) : Bool :=
  isRunOf true '*' 3 gs || isRunOf true '-' 3 gs || isRunOf true '_' 3 gs

/-- Whether `gs`, behind its indent, makes a heading of the paragraph above it. -/
def isUnderline (gs : List Glyph) : Bool := isRunOf false '=' 1 gs || isRunOf false '-' 1 gs

/-- The marks and their number if `gs` starts fenced code. -/
def fenceOf (gs : List Glyph) : Option (Char × Nat) :=
  match gs with
  | [] => none
  | g :: _ =>
    let marks := gs.takeWhile (·.char = g.char)
    if (g.char = '`' || g.char = '~') && 3 ≤ marks.length &&
        !(g.char = '`' && (gs.drop marks.length).any (·.char = '`')) then
      some (g.char, marks.length)
    else none

/-- Whether the line ends code that is fenced by `size` of `mark`. -/
def closesFence (d : Dialect) (mark : Char) (size : Nat) (line : Line) : Bool :=
  match unindented d line with
  | none => false
  | some gs => isRunOf false mark size gs

/-- The part of `gs` up to the last character that is text of a heading: a `#` is so only inside
a word. -/
def upToText (inWord : Bool) : List Glyph → List Glyph
  | [] => []
  | g :: gs =>
    let isText := !isGap g && (inWord || g.char ≠ '#')
    let rest := upToText isText gs
    if isText || !rest.isEmpty then g :: rest else []

def headingOf (gs : List Glyph) : Option (List Glyph) :=
  let marks := gs.takeWhile (·.char = '#')
  let rest := gs.drop marks.length
  if 1 ≤ marks.length && marks.length ≤ 6 && rest.head?.all isGap then
    some (upToText false (rest.dropWhile fun g => isGap g || g.char = '#'))
  else none

/-- The form of a line. A paragraph above it, which it may interrupt, excludes some; `lazy` is a
line that leaves out marks of its containers. -/
def formOf (d : Dialect) (paragraph lazy underlines : Bool) (line : Line) : Form :=
  if isBlankLine line then .blank
  else
    match unindented d line with
    | none => if paragraph then .text else .code
    | some gs =>
      match fenceOf gs with
      | some (mark, size) => .fence mark size
      | none =>
        match if d.hasHtml then HtmlBlock.start (paragraph && !lazy) gs else none with
        | some block => .html block
        | none =>
          match headingOf gs with
          | some text => .heading text
          | none =>
            if underlines && isUnderline gs then .underline
            else if isRule gs then .rule
            else .text

end Considerate.Markup
