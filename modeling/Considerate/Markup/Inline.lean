import Considerate.Markup.AngleLink
import Considerate.Markup.BareLink
import Considerate.Markup.Emphasis
import Considerate.Markup.Event
import Considerate.Markup.HtmlSpan
import Considerate.Markup.Link
import Considerate.Markup.Tag

namespace Considerate.Markup

open Text

/-- What inline markup refers to: the dialect, and the keys of the definitions and footnotes of
the document. -/
structure Context where
  dialect : Dialect
  links : List (List Char) := []
  footnotes : List (List Char) := []

inductive Piece where
  | data (gs : List Glyph)
  | escaped (g : Glyph)
  | lineEnd (g : Glyph)
  | lineBreak (span : Span)
  | run (r : Run) (gs : List Glyph)
  | events (es : List Event)

/-- The pieces of a text once its runs are settled: marks that nothing uses are data. -/
def Piece.ofRun (r : Run) (gs : List Glyph) : List Piece :=
  let stops := r.closings.foldl (fun (at_, es) kind =>
    let at_ := at_ + (if kind = .strong then 2 else if kind = .emphasis then 1 else gs.length)
    (at_, es ++ [Event.exit kind at_])) (startOf 0 gs, [])
  let starts := r.openings.foldl (fun (at_, es) kind =>
    (at_ + (if kind = .strong then 2 else if kind = .emphasis then 1 else gs.length),
      es ++ [Event.enter kind at_])) (r.stop, [])
  let free := gs.filter fun g => r.start ≤ g.start && g.start < r.stop
  [.events stops.2, .data free, .events starts.2]

/-- Replaces runs by what they are worth; `rs` are the settled runs of `ps`. -/
def spendRuns : List Run → List Piece → List Piece
  | _, [] => []
  | r :: rs, .run _ gs :: ps => Piece.ofRun r gs ++ spendRuns rs ps
  | [], .run _ gs :: ps => .data gs :: spendRuns [] ps
  | rs, p :: ps => p :: spendRuns rs ps

/-- Joins data that meets, and drops what is empty. -/
def joinData : List Piece → List Piece
  | [] => []
  | .data gs :: ps =>
    if gs.isEmpty then joinData ps
    else
      match joinData ps with
      | .data hs :: ps => .data (gs ++ hs) :: ps
      | ps => .data gs :: ps
  | .events [] :: ps => joinData ps
  | p :: ps => p :: joinData ps

/-- The spaces that make a line break before a line end. -/
def breakSize : Nat := 2

def textEvent (gs : List Glyph) : List Event :=
  match gs with
  | [] => []
  | g :: _ => [.text ⟨g.start, stopOf g.stop gs⟩]

/-- Data as events: in some dialects the mail addresses in it are links, except inside a link. -/
def dataEvents (d : Dialect) (linked : Bool) (gs : List Glyph) : List Event :=
  if d.isExtended && !linked then
    (BareLink.mails gs).flatMap fun s =>
      if s.linked then
        [.enter .link (startOf 0 s.glyphs)] ++ textEvent s.glyphs ++
          [.exit .link (stopOf 0 s.glyphs)]
      else textEvent s.glyphs
  else textEvent gs

/-- Data before a line end: spaces at its end are dropped, and break the line if they are
enough. -/
def dataBeforeLineEnd (d : Dialect) (linked : Bool) (gs : List Glyph) : List Event :=
  let kept := (gs.reverse.dropWhile isSpace).reverse
  let spaces := gs.drop kept.length
  let broken := breakSize ≤ spaces.length && spaces.all (·.char = ' ')
  dataEvents d linked kept ++
    if broken then [.lineBreak ⟨startOf 0 spaces, stopOf 0 spaces⟩] else []

/-- The events of pieces. Spaces are dropped at both sides of a line end; `edge` tells whether
the pieces so far end in one, or are at the start of a text. At the end of a text, `last`, they
are dropped too. -/
def pieceEvents (d : Dialect) (linked last : Bool) (edge : Bool) : List Piece → List Event
  | [] => []
  | .data gs :: ps =>
    let gs := if edge then gs.dropWhile isSpace else gs
    let here :=
      match ps with
      | [] => dataEvents d linked (if last then (gs.reverse.dropWhile isSpace).reverse else gs)
      | .lineEnd _ :: _ => dataBeforeLineEnd d linked gs
      | _ => dataEvents d linked gs
    here ++ pieceEvents d linked last false ps
  | .escaped g :: ps => .text ⟨g.start, g.stop⟩ :: pieceEvents d linked last false ps
  | .lineEnd g :: ps => .lineEnd ⟨g.start, g.stop⟩ :: pieceEvents d linked last true ps
  | .lineBreak s :: ps => .lineBreak s :: pieceEvents d linked last false ps
  | .run _ gs :: ps => dataEvents d linked gs ++ pieceEvents d linked last false ps
  | .events es :: ps => es ++ pieceEvents d linked last false ps

def Piece.run? : Piece → Option Run
  | .run r _ => some r
  | _ => none

def levelEvents (d : Dialect) (linked first last : Bool) (ps : List Piece) : List Event :=
  pieceEvents d linked last first (joinData (spendRuns (Run.settle (ps.filterMap Piece.run?)) ps))

/-- What an opening bracket may begin. -/
inductive Opening where
  | link
  | image
  | footnote
  deriving DecidableEq

/-- An opening bracket that waits for its closing one: its glyphs, what follows it, and the
pieces before it, last first. It is inert once a link stands inside it. -/
structure Bracket where
  opening : Opening
  glyphs : List Glyph
  inside : List Glyph
  outer : List Piece
  inert : Bool := false

/-- A scan of a text: the brackets that wait, innermost first, the pieces since the innermost,
last first, and the last character. -/
structure Scan where
  brackets : List Bracket := []
  pieces : List Piece := []
  previous : Option Char := none

namespace Scan

def push (s : Scan) (p : Piece) : Scan := { s with pieces := p :: s.pieces }

/-- Gives up the innermost bracket: its glyphs are data. -/
def giveUp (s : Scan) : Scan :=
  match s.brackets with
  | [] => s
  | b :: bs => { s with brackets := bs, pieces := s.pieces ++ .data b.glyphs :: b.outer }

def giveUpAll : Nat → Scan → Scan
  | 0, s => s
  | n + 1, s => giveUpAll n s.giveUp

end Scan

def upTo (gs rest : List Glyph) : List Glyph := gs.take (gs.length - rest.length)

/-- What follows the reference behind a closing bracket that names its own definition, `defined`
telling whether the bracketed text is a label of one. -/
def afterReference (c : Context) (defined : Bool) (gs : List Glyph) : Option (List Glyph) :=
  match gs with
  | [] => if defined then some gs else none
  | g :: _ =>
    if g.char = '(' then
      match afterResource gs with
      | some rest => some rest
      | none => if defined then some gs else none
    else if g.char = '[' then
      match label gs with
      | some (name, rest) => if c.links.contains (labelKey name) then some rest else none
      | none =>
        match gs.tail with
        | h :: rest => if defined && h.char = ']' then some rest else none
        | [] => none
    else if defined then some gs
    else none

/-- What a bracket turns out to be, with what follows it. -/
inductive Closing where
  | leaf (rest : List Glyph)
  | link (rest : List Glyph)
  | nothing

def closing (c : Context) (b : Bracket) (name gs : List Glyph) : Closing :=
  let key := labelKey name
  match b.opening with
  | .footnote =>
    if c.footnotes.contains key then .leaf gs
    else
      match afterReference c (c.links.contains (labelKey (b.glyphs.drop 1 ++ name))) gs with
      | some rest => .link rest
      | none => .nothing
  | .image =>
    match afterReference c (c.links.contains key) gs with
    | some rest => .leaf rest
    | none => .nothing
  | .link =>
    match afterReference c (c.links.contains key) gs with
    | some rest => .link rest
    | none => .nothing

/-- Brackets around a link can be no links themselves. -/
def deaden (bs : List Bracket) : List Bracket :=
  bs.map fun b => if b.opening = .image then b else { b with inert := true }

def Scan.closeBracket (c : Context) (s : Scan) (g : Glyph) (gs : List Glyph) :
    Scan × List Glyph :=
  match s.brackets with
  | [] => (s.push (.data [g]), gs)
  | b :: bs =>
    if b.inert then (s.giveUp.push (.data [g]), gs)
    else
      let name := upTo b.inside (g :: gs)
      let start := startOf 0 b.glyphs
      let stop rest := stopOf g.stop (upTo (g :: gs) rest)
      match closing c b name gs with
      | .nothing => (s.giveUp.push (.data [g]), gs)
      | .leaf rest =>
        let bs := if b.opening = .image then bs else deaden bs
        ({ s with brackets := bs, pieces := .events [.leaf ⟨start, stop rest⟩] :: b.outer }, rest)
      | .link rest =>
        let inner := .data (b.glyphs.drop 1) :: s.pieces.reverse
        let es := Event.enter .link start ::
          (levelEvents c.dialect true false false inner ++ [.exit .link (stop rest)])
        ({ s with brackets := deaden bs, pieces := .events es :: b.outer }, rest)

/-- What follows the run of exactly `size` backticks that closes a code span; `count` backticks
stand before `gs`. -/
def afterCode (size count : Nat) : List Glyph → Option (List Glyph)
  | [] => if count = size then some [] else none
  | g :: gs =>
    if g.char = '`' then afterCode size (count + 1) gs
    else if count = size then some (g :: gs)
    else afterCode size 0 gs

def isMark (d : Dialect) (c : Char) : Bool :=
  "!&*<[\\]_`\n".toList.contains c || (d.hasTags && c = '{') ||
    (d.isExtended && "~hHwW".toList.contains c)

/-- Data from `g` on, up to the next character that may start a construct. -/
def Scan.data (d : Dialect) (s : Scan) (g : Glyph) (gs : List Glyph) : Scan × List Glyph :=
  let more := gs.takeWhile fun g => !isMark d g.char
  (s.push (.data (g :: more)), gs.drop more.length)

def Scan.leaf (s : Scan) (g : Glyph) (gs rest : List Glyph) : Scan × List Glyph :=
  (s.push (.events [.leaf ⟨g.start, stopOf g.stop (upTo gs rest)⟩]), rest)

def Scan.link (s : Scan) (g : Glyph) (gs inside rest : List Glyph) : Scan × List Glyph :=
  (s.push (.events ([.enter .link g.start] ++ textEvent inside ++
    [.exit .link (stopOf g.stop (upTo gs rest))])), rest)

/-- An angle bracket `g`: a link, HTML or data. -/
def Scan.angle (c : Context) (s : Scan) (g : Glyph) (gs : List Glyph) : Scan × List Glyph :=
  match AngleLink.read (g :: gs) with
  | some (inside, rest) => s.link g gs inside rest
  | none =>
    match HtmlSpan.afterHtml (g :: gs) with
    | some rest => s.leaf g gs rest
    | none => s.data c.dialect g gs

/-- A tag or an expression at `g`, in a text that stops at `stop`. -/
def Scan.component (c : Context) (stop : Nat) (s : Scan) (g : Glyph) (gs : List Glyph) :
    Except Fault (Scan × List Glyph) :=
  match readComponent (g :: gs) with
  | .done (.tag t) rest => .ok (s.push (.events [.tag t]), rest)
  | .done (.expression span) rest => .ok (s.push (.events [.leaf span]), rest)
  | .none => .ok (s.data c.dialect g gs)
  | .fault f => .error f
  | .cut spot =>
    match spot.atEnd stop with
    | some f => .error f
    | none => .ok (s.data c.dialect g gs)

def Scan.bracket (s : Scan) (opening : Opening) (glyphs inside : List Glyph) : Scan :=
  { s with brackets := ⟨opening, glyphs, inside, s.pieces, false⟩ :: s.brackets, pieces := [] }

/-- The piece that starts with `g`, and what follows it. The text stops at `stop`. -/
def Scan.step (c : Context) (stop : Nat) (s : Scan) (g : Glyph) (gs : List Glyph) :
    Except Fault (Scan × List Glyph) :=
  let d := c.dialect
  let next := gs.head?.map (·.char)
  match g.char with
  | '!' =>
    if next = some '[' then .ok (s.bracket .image (g :: gs.take 1) (gs.drop 1), gs.drop 1)
    else .ok (s.data d g gs)
  | '[' =>
    if d.isExtended && next = some '^' then
      .ok (s.bracket .footnote (g :: gs.take 1) (gs.drop 1), gs.drop 1)
    else .ok (s.bracket .link [g] gs, gs)
  | ']' => .ok (s.closeBracket c g gs)
  | '\\' =>
    match gs with
    | h :: rest =>
      if isLineEnd h then .ok (s.push (.lineBreak ⟨g.start, g.stop⟩), gs)
      else if isAsciiPunctuation h.char then .ok (s.push (.escaped h), rest)
      else .ok (s.data d g gs)
    | [] => .ok (s.data d g gs)
  | '`' =>
    let marks := gs.takeWhile (·.char = '`')
    let after := gs.drop marks.length
    match afterCode (marks.length + 1) 0 after with
    | some rest => .ok (s.leaf g gs rest)
    | none => .ok (s.push (.data (g :: marks)), after)
  | '<' => if d.hasTags then s.component c stop g gs else .ok (s.angle c g gs)
  | '{' => if d.hasTags then s.component c stop g gs else .ok (s.data d g gs)
  | '\n' => .ok (s.push (.lineEnd g), gs)
  | m =>
    if m = '*' || m = '_' || (m = '~' && d.isExtended) then
      let marks := gs.takeWhile (·.char = m)
      let all := g :: marks
      let after := (all.getLast?.map (·.after)).getD none
      .ok (s.push (.run (Run.between d m g.start (stopOf g.stop all) g.before after) all),
        gs.drop marks.length)
    else if d.isExtended && "hHwW".toList.contains m then
      match BareLink.afterWeb s.previous (g :: gs) with
      | some rest => .ok (s.link g gs (upTo (g :: gs) rest) rest)
      | none => .ok (s.data d g gs)
    else .ok (s.data d g gs)

def Scan.run (c : Context) (stop : Nat) (s : Scan) (gs : List Glyph) : Except Fault Scan :=
  match gs with
  | [] => .ok s
  | g :: rest =>
    match s.step c stop g rest with
    | .error f => .error f
    | .ok (s, after) =>
      if after.length ≤ rest.length then
        Scan.run c stop { s with previous := (upTo (g :: rest) after).getLast?.map Glyph.char } after
      else .ok s
termination_by gs.length

/-- The events of a text that stops at `stop`. If it is not `first`, something of its line stands
before it. -/
def inlineEvents (c : Context) (first : Bool) (stop : Nat) (gs : List Glyph) :
    Except Fault (List Event) :=
  match Scan.run c stop {} gs with
  | .error f => .error f
  | .ok s =>
    .ok (levelEvents c.dialect false first true (s.giveUpAll s.brackets.length).pieces.reverse)

end Considerate.Markup
