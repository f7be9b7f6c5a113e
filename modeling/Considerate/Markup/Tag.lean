import Considerate.Markup.Fault
import Considerate.Markup.Glyph
import Considerate.Text.Blank
import Considerate.Text.Identifier

namespace Considerate.Markup

open Text

/-- A tag of a document with what it shows of itself, and where its parts are. -/
structure Tag where
  start : Nat
  stop : Nat := 0
  name : List Char := []
  closing : Option Nat := none
  firstAttribute : Option Nat := none
  slash : Option Nat := none
  deriving DecidableEq, Repr

namespace Tag

def closes (t : Tag) : Bool := t.closing.isSome

def shown (t : Tag) : TagName := { name := t.name, closes := t.closes }

end Tag

/-- What a reader of a tag does with a character. -/
inductive Move where
  | go (spot : Spot)
  | finish
  | stuck (spot : Spot)
  deriving DecidableEq, Repr

namespace Spot

/-- A tag that may end or go on with attributes: what `c` does, or a fault at `spot`. -/
def attributeMove (spot : Spot) (c : Char) : Move :=
  if c = '/' then .go afterSlash
  else if c = '>' then .finish
  else if c = '{' then .go (braces 1)
  else if isNameStart c then .go inAttribute
  else .stuck spot

def nameMove (c : Char) : Move :=
  if c = '.' then .go beforeMember
  else if c = ':' then .go beforeLocal
  else attributeMove afterName c

def memberMove (c : Char) : Move :=
  if c = '.' then .go beforeMember else attributeMove afterMember c

/-- The name of an attribute that has ended. -/
def initialMove (c : Char) : Move :=
  if c = ':' then .go beforeLocalAttribute
  else if c = '=' then .go beforeValue
  else attributeMove afterAttribute c

def localInitialMove (c : Char) : Move :=
  if c = '=' then .go beforeValue else attributeMove afterLocalAttribute c

/-- A name at `inside` that goes on with name characters; blanks end it, and so do `ends`, which
then move by `next`. -/
def partMove (inside behind : Spot) (ends : List Char) (next : Char → Move) (c : Char) : Move :=
  if isBlank c then .go behind
  else if ends.contains c then next c
  else if isNamePart c then .go inside
  else .stuck inside

def skipBlanks (spot : Spot) (next : Char → Move) (c : Char) : Move :=
  if isBlank c then .go spot else next c

/-- A name must start here. -/
def startMove (spot inside : Spot) (c : Char) : Move :=
  if isNameStart c then .go inside else .stuck spot

def move : Spot → Char → Move
  | beforeName, c =>
    if c = '/' then .go beforeClosingName
    else if c = '>' then .finish
    else startMove beforeName inName c
  | beforeClosingName, c =>
    skipBlanks beforeClosingName (fun c => if c = '>' then .finish
      else startMove beforeClosingName inName c) c
  | inName, c => partMove inName afterName ['.', '/', ':', '<', '>', '{'] nameMove c
  | afterName, c => skipBlanks afterName nameMove c
  | beforeMember, c => skipBlanks beforeMember (startMove beforeMember inMember) c
  | inMember, c => partMove inMember afterMember ['.', '/', '<', '>', '{'] memberMove c
  | afterMember, c => skipBlanks afterMember memberMove c
  | beforeLocal, c => skipBlanks beforeLocal (startMove beforeLocal inLocal) c
  | inLocal, c => partMove inLocal afterLocal ['/', '<', '>', '{'] (attributeMove afterLocal) c
  | afterLocal, c => skipBlanks afterLocal (attributeMove afterLocal) c
  | beforeAttribute, c => skipBlanks beforeAttribute (attributeMove beforeAttribute) c
  | inAttribute, c =>
    partMove inAttribute afterAttribute ['/', ':', '=', '>', '{'] initialMove c
  | afterAttribute, c => skipBlanks afterAttribute initialMove c
  | beforeLocalAttribute, c =>
    skipBlanks beforeLocalAttribute (startMove beforeLocalAttribute inLocalAttribute) c
  | inLocalAttribute, c =>
    partMove inLocalAttribute afterLocalAttribute ['/', '=', '>', '{'] localInitialMove c
  | afterLocalAttribute, c => skipBlanks afterLocalAttribute localInitialMove c
  | beforeValue, c =>
    skipBlanks beforeValue (fun c =>
      if c = '"' || c = '\'' then .go (quoted c)
      else if c = '{' then .go (braces 1)
      else .stuck beforeValue) c
  | quoted q, c => .go (if c = q then beforeAttribute else quoted q)
  | braces depth, c =>
    if c = '{' then .go (braces (depth + 1))
    else if c = '}' then .go (if depth = 1 then beforeAttribute else braces (depth - 1))
    else .go (braces depth)
  | afterSlash, c => skipBlanks afterSlash (fun c => if c = '>' then .finish else .stuck afterSlash) c

end Spot

def Tag.moved (t : Tag) (spot target : Spot) (c : Char) (offset : Nat) : Tag :=
  match target with
  | .beforeClosingName => if spot = .beforeName then { t with closing := some offset } else t
  | .inName | .inMember | .inLocal => { t with name := t.name ++ [c] }
  | .beforeMember => if spot = .beforeMember then t else { t with name := t.name ++ [c] }
  | .beforeLocal => if spot = .beforeLocal then t else { t with name := t.name ++ [c] }
  | .inAttribute =>
    if t.firstAttribute.isSome then t else { t with firstAttribute := some offset }
  | .braces _ =>
    if t.firstAttribute.isSome then t else { t with firstAttribute := some offset }
  | .afterSlash => if spot = .afterSlash then t else { t with slash := some offset }
  | _ => t

/-- What reading gave: the thing read and the rest, nothing, a fault, or the end of the glyphs
before it was clear. -/
inductive Reading (α : Type) where
  | done (value : α) (rest : List Glyph)
  | none
  | fault (f : Fault)
  /-- The glyphs ended too early; reading on would have been at `spot`. -/
  | cut (spot : Spot)

def readTagFrom (t : Tag) (spot : Spot) : List Glyph → Reading Tag
  | [] => .cut spot
  | g :: gs =>
    match spot.move g.char with
    | .go target => readTagFrom (t.moved spot target g.char g.start) target gs
    | .finish => .done { t with stop := g.stop } gs
    | .stuck spot => .fault (.misplaced spot (some g.char) g.start)

/-- The tag that `gs` starts with. A gap behind the `<` makes it none. -/
def readTag : List Glyph → Reading Tag
  | [] => .none
  | g :: gs =>
    if g.char = '<' then
      match gs with
      | [] => .cut .beforeName
      | h :: _ => if isGap h then .none else readTagFrom { start := g.start } .beforeName gs
    else .none

/-- What is left of an expression `depth` braces deep. -/
def readBraces (start depth : Nat) : List Glyph → Reading Span
  | [] => .cut (.braces depth)
  | g :: gs =>
    if g.char = '{' then readBraces start (depth + 1) gs
    else if g.char = '}' then
      if depth ≤ 1 then .done ⟨start, g.stop⟩ gs else readBraces start (depth - 1) gs
    else readBraces start depth gs

def readExpression : List Glyph → Reading Span
  | [] => .none
  | g :: gs => if g.char = '{' then readBraces g.start 1 gs else .none

/-- What a text that ends at `offset` with a reader at `spot` means: a fault, or nothing if the
reader was at a gap. -/
def Spot.atEnd (offset : Nat) : Spot → Option Fault
  | beforeName => some (.misplaced beforeName none offset)
  | quoted q => some (.misplaced (quoted q) none offset)
  | braces _ => some (.unclosedBrace offset)
  | _ => none

/-- What a line that leaves out the marks of its containers means to a reader at `spot`. -/
def Spot.atLazy (offset : Nat) : Spot → Fault
  | braces _ => .lazyExpression offset
  | _ => .lazyTag offset

inductive Component where
  | tag (t : Tag)
  | expression (span : Span)
  deriving DecidableEq, Repr

/-- The tag or expression that `gs` starts with. -/
def readComponent (gs : List Glyph) : Reading Component :=
  match gs with
  | [] => .none
  | g :: _ =>
    if g.char = '{' then
      match readExpression gs with
      | .done span rest => .done (.expression span) rest
      | .none => .none
      | .fault f => .fault f
      | .cut spot => .cut spot
    else
      match readTag gs with
      | .done t rest => .done (.tag t) rest
      | .none => .none
      | .fault f => .fault f
      | .cut spot => .cut spot

/-- The tags and expressions that fill the lines `gs`, with spaces between them. -/
def readComponents (gs : List Glyph) : Reading (List Component) :=
  match readComponent (gs.dropWhile isSpace) with
  | .done c rest =>
    match rest.dropWhile isSpace with
    | [] => .done [c] []
    | g :: after =>
      if isLineEnd g then .done [c] after
      else if (g :: after).length < gs.length then
        match readComponents (g :: after) with
        | .done cs rest => .done (c :: cs) rest
        | .none => .none
        | .fault f => .fault f
        | .cut spot => .cut spot
      else .none
  | .none => .none
  | .fault f => .fault f
  | .cut spot => .cut spot
termination_by gs.length

end Considerate.Markup
