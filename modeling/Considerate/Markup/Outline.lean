import Considerate.Markup.Container
import Considerate.Markup.Event
import Considerate.Markup.Link
import Considerate.Markup.Table

namespace Considerate.Markup

open Text

inductive Block where
  | enter (kind : Kind) (at_ : Nat)
  | exit (kind : Kind) (at_ : Nat)
  /-- Running text. It may be a task if it is the first text of a list item. -/
  | prose (kind : Kind) (span : Span) (gs : List Glyph) (mayBeTask : Bool)
  | component (c : Component)

/-- The block that the next line may go on with. -/
inductive Leaf where
  | none
  | paragraph (lines : List Line)
  | underlined
  | fenced (mark : Char) (size : Nat)
  | html (block : HtmlBlock)
  | table

/-- What has been read of a document: the open containers, outermost first, the open block, the
lines of tags and expressions whose end has not come, and the blocks, last first. -/
structure Outline where
  dialect : Dialect
  containers : List Container := []
  leaf : Leaf := .none
  held : List Line := []
  blocks : List Block := []
  links : List (List Char) := []
  footnotes : List (List Char) := []
  lineStop : Nat := 0

namespace Outline

def add (o : Outline) (b : Block) : Outline := { o with blocks := b :: o.blocks }

/-- Whether a list item has just begun. -/
def startsItem (o : Outline) : Bool :=
  match o.blocks with
  | .enter .item _ :: _ => true
  | _ => false

/-- The text of a paragraph: its lines without the last line end. -/
def joined (lines : List Line) : List Glyph :=
  let gs := lines.flatten
  if gs.getLast?.any isLineEnd then gs.dropLast else gs

/-- Takes the definitions at the start of a paragraph; what is left of it. -/
def define (o : Outline) (lines : List Line) : Outline × List Glyph :=
  let (keys, rest) := definitions (joined lines)
  ({ o with links := o.links ++ keys }, rest)

/-- Adds running text, if there is any. It ends where `gs` does, or at `stop`. -/
def addProse (o : Outline) (kind : Kind) (gs : List Glyph) (stop : Option Nat) : Outline :=
  let start := startOf 0 (gs.dropWhile isGap)
  let stop := stop.getD (stopOf start gs)
  o.add (.prose kind ⟨start, stop⟩ gs (kind = .paragraph && o.startsItem))

def addParagraph (o : Outline) (lines : List Line) : Outline :=
  let (o, gs) := o.define lines
  if isBlankLine gs then o else o.addProse .paragraph gs none

/-- Ends the open block. -/
def closeLeaf (o : Outline) : Outline :=
  match o.leaf with
  | .paragraph lines => { o.addParagraph lines with leaf := .none }
  | _ => { o with leaf := .none }

def isParagraph : Leaf → Bool
  | .paragraph _ => true
  | _ => false

/-- Whether a line of equals signs or dashes is an underline below the block. -/
def takesUnderline : Leaf → Bool
  | .paragraph _ | .underlined => true
  | _ => false

def addRow (o : Outline) (row : Line) : Outline :=
  (Table.cells row).foldl (fun o cell => o.addProse .cell cell none) o

def tableHead (d : Dialect) (lines : List Line) (line : Line) : Option (List Line × Line) :=
  match lines.getLast? with
  | none => none
  | some head =>
    if d.isExtended && d.allowsIndent (indentOf line) && Table.isHead head line then
      some (lines.dropLast, head)
    else none

/-- An underline below a paragraph, which is a heading unless it holds definitions alone. -/
def underline (o : Outline) (lines : List Line) (line : Line) : Outline :=
  let (o, gs) := o.define lines
  if isBlankLine gs then { o with leaf := .paragraph [line] }
  else
    { o.addProse .underlinedHeading gs (some (stopOf 0 (body line))) with leaf := .underlined }

/-- A line of the form `form`, with no block open that takes it whole. -/
def formLine (o : Outline) (line : Line) : Form → Outline
  | .blank | .code | .rule => o.closeLeaf
  | .fence mark size => { o.closeLeaf with leaf := .fenced mark size }
  | .html block =>
    { o.closeLeaf with leaf := if block.endsWith line then .none else .html block }
  | .heading gs =>
    let o := o.closeLeaf
    if gs.isEmpty then
      (o.add (.enter .heading (startOf 0 line))).add (.exit .heading (stopOf 0 (body line)))
    else
      o.addProse .heading gs (some (stopOf 0 (body line)))
  | .underline =>
    match o.leaf with
    | .paragraph lines => o.underline lines line
    | _ => { o with leaf := .paragraph [line] }
  | .text =>
    match o.leaf with
    | .paragraph lines => { o with leaf := .paragraph (lines ++ [line]) }
    | .table => o.addRow line
    | _ => { o with leaf := .paragraph [line] }

/-- A line with the marks of its containers read; it starts no tag or expression. -/
def plainLine (o : Outline) (line : Line) : Outline :=
  let form := formOf o.dialect (isParagraph o.leaf) false (takesUnderline o.leaf) line
  match o.leaf with
  | .fenced mark size => if closesFence o.dialect mark size line then { o with leaf := .none } else o
  | .html block =>
    if block.endsBefore line then { o with leaf := .none }
    else if block.endsWith line then { o with leaf := .none }
    else o
  | .paragraph lines =>
    match tableHead o.dialect lines line with
    | some (above, head) =>
      let o := if above.isEmpty then o else o.addParagraph above
      { o.addRow head with leaf := .table }
    | none => o.formLine line form
  | _ => o.formLine line form

def mayStartComponent (o : Outline) (line : Line) : Bool :=
  o.dialect.hasTags &&
    (match o.leaf with
    | .fenced .. | .html _ => false
    | _ => true) &&
    (line.dropWhile isSpace).head?.any fun g => g.char = '<' || g.char = '{'

/-- What the tags and expressions that start with the first of `lines` come to; none if they do
not fill whole lines, or if the text stops at `final` before their end. -/
def components (o : Outline) (final : Option Nat) (lines : List Line) : Reading (List Component) :=
  if (lines.head?.any o.mayStartComponent) then
    match readComponents lines.flatten, final with
    | .cut spot, some stop =>
      match spot.atEnd stop with
      | some f => .fault f
      | none => .none
    | r, _ => r
  else .none

/-- Reads lines whose marks of containers are read. Tags and expressions without end are held, or,
if the text stops at `final`, are none. -/
def feed (o : Outline) (final : Option Nat) (lines : List Line) : Except Fault Outline :=
  match lines with
  | [] => .ok o
  | line :: more =>
    match o.components final (line :: more) with
    | .done cs rest =>
      let o := cs.foldl (fun o c => o.add (.component c)) o.closeLeaf
      if (linesOf rest).length ≤ more.length then o.feed final (linesOf rest) else .ok o
    | .fault f => .error f
    | .cut _ => .ok { o with held := line :: more }
    | .none => (o.plainLine line).feed final more
termination_by lines.length
decreasing_by all_goals (simp_wf; try omega)

def settleHeld (o : Outline) (stop : Nat) : Except Fault Outline :=
  { o with held := [] }.feed (some stop) o.held

/-- Closes all containers but the outermost `n`. -/
def closeDownTo (n : Nat) (o : Outline) : Outline :=
  let o := o.closeLeaf
  let closed := (o.containers.drop n).reverse
  let o := closed.foldl (fun o c => o.add (.exit c.kind o.lineStop)) o
  { o with containers := o.containers.take n }

def resumed (d : Dialect) : List Container → Line → List Container × Line
  | [], line => ([], line)
  | c :: cs, line =>
    match c.resume d line with
    | none => ([], line)
    | some (c, rest) =>
      let (cs, rest) := resumed d cs rest
      (c :: cs, rest)

/-- A container that the line starts, the key that it defines if it is a footnote, and the line
behind its mark. -/
def newContainer (d : Dialect) (interrupting : Bool) (line : Line) :
    Option (Container × Option (List Char) × Line) :=
  match Container.behindQuote d line with
  | some rest => some (.quote, none, rest)
  | none =>
    match Container.startItem d interrupting line with
    | some (c, rest) => some (c, none, rest)
    | none => (Container.startFootnote d line).map fun (key, rest) => (.footnote, some key, rest)

def addContainer (o : Outline) (c : Container) (key : Option (List Char)) (at_ : Nat) : Outline :=
  let o := o.add (.enter c.kind at_)
  { o with containers := o.containers ++ [c], footnotes := o.footnotes ++ key.toList }

/-- Starts the containers that the line starts; the line behind their marks. -/
def addContainers (o : Outline) (line : Line) : Outline × Line :=
  match newContainer o.dialect false line with
  | none => (o, line)
  | some (c, key, rest) =>
    let o := o.addContainer c key (startOf 0 line)
    if rest.length < line.length then o.addContainers rest else (o, rest)
termination_by line.length

/-- Whether the open block takes lines whole. -/
def isConcrete (o : Outline) : Bool :=
  !o.held.isEmpty ||
    match o.leaf with
    | .fenced .. | .html _ => true
    | _ => false

/-- The outline with the paragraph that is open one line longer, if a line that leaves out marks
of its containers can go on with it. -/
def goneOn (o : Outline) (line : Line) : Option Outline :=
  match o.leaf, o.components none [line] with
  | .paragraph lines, .none =>
    if formOf o.dialect true true false line = .text then
      some { o with leaf := .paragraph (lines ++ [line]) }
    else none
  | _, _ => none

/-- The fault of a line that leaves out marks of its containers in a tag or expression. -/
def lazyFault (o : Outline) (line : Line) : Fault :=
  match readComponents o.held.flatten with
  | .cut spot => spot.atLazy (startOf o.lineStop line)
  | _ => .lazyTag (startOf o.lineStop line)

/-- A line that goes on in all containers and starts none. -/
def innerLine (o : Outline) (line : Line) : Except Fault Outline :=
  { o with held := [] }.feed none (o.held ++ [line])

def line (o : Outline) (l : Line) : Except Fault Outline :=
  let (kept, rest) := resumed o.dialect o.containers l
  let whole := kept.length = o.containers.length
  if whole && o.isConcrete then { o with containers := kept }.innerLine rest
  else
    let interrupting := whole && isParagraph o.leaf
    let resumedAll := { o with containers := kept ++ o.containers.drop kept.length }
    match newContainer o.dialect interrupting rest with
    | some (c, key, behind) =>
      match resumedAll.settleHeld (startOf o.lineStop l) with
      | .error f => .error f
      | .ok o =>
        let o := (o.closeDownTo kept.length).addContainer c key (startOf o.lineStop rest)
        let (o, behind) := o.addContainers behind
        o.innerLine behind
    | none =>
      if whole then resumedAll.innerLine rest
      else if !o.held.isEmpty then .error (o.lazyFault rest)
      else
        match resumedAll.goneOn rest with
        | some o => .ok o
        | none => (resumedAll.closeDownTo kept.length).feed none [rest]

def lines (o : Outline) : List Line → Except Fault Outline
  | [] => .ok o
  | l :: ls =>
    match o.line l with
    | .error f => .error f
    | .ok o => { o with lineStop := stopOf o.lineStop (body l) }.lines ls

def ofLines (d : Dialect) (size : Nat) (ls : List Line) : Except Fault Outline :=
  match ({ dialect := d } : Outline).lines ls with
  | .error f => .error f
  | .ok o => (o.settleHeld size).map (closeDownTo 0)

end Outline

end Considerate.Markup
