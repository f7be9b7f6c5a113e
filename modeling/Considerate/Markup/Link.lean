import Considerate.Markup.Glyph
import Considerate.Text.CaseFold

namespace Considerate.Markup

open Text

def maxLabel : Nat := 999

/-- The glyphs up to the `]` that closes a label, and those after it. A bracket inside needs a
backslash. -/
def labelBody (escaped : Bool) : List Glyph → Option (List Glyph × List Glyph)
  | [] => none
  | g :: gs =>
    if !escaped && g.char = ']' then some ([], gs)
    else if !escaped && g.char = '[' then none
    else (labelBody (!escaped && g.char = '\\') gs).map fun (body, rest) => (g :: body, rest)

/-- The label that `gs` starts with, brackets left out. -/
def label : List Glyph → Option (List Glyph × List Glyph)
  | [] => none
  | g :: gs =>
    if g.char = '[' then
      match labelBody false gs with
      | some (body, rest) =>
        if body.all isGap || maxLabel < body.length then none else some (body, rest)
      | none => none
    else none

/-- The words of `cs`: its longest runs without blanks. -/
def wordsOf : List Char → List (List Char)
  | [] => []
  | c :: cs =>
    if c = ' ' || c = '\t' || c = '\n' then wordsOf cs
    else
      match cs with
      | [] => [[c]]
      | d :: _ =>
        if d = ' ' || d = '\t' || d = '\n' then [c] :: wordsOf cs
        else
          match wordsOf cs with
          | [] => [[c]]
          | w :: ws => (c :: w) :: ws

/-- What two labels have in common if they name the same thing: their words in one letter case. -/
def labelKey (gs : List Glyph) : List Char :=
  ((wordsOf (spelling gs)).intersperse [' ']).flatten.flatMap foldLetter

def isControl (c : Char) : Bool := c.toNat < 0x20 || c.toNat = 0x7F

/-- What follows a destination in angle brackets, the first bracket read. -/
def afterAngled (escaped : Bool) : List Glyph → Option (List Glyph)
  | [] => none
  | g :: gs =>
    if escaped && (g.char = '<' || g.char = '>' || g.char = '\\') then afterAngled false gs
    else if g.char = '>' then some gs
    else if g.char = '<' || isLineEnd g then none
    else afterAngled (g.char = '\\') gs

/-- What follows a bare destination, inside `depth` round brackets of at most `limit`. -/
def afterBare (limit depth : Nat) (escaped : Bool) : List Glyph → Option (List Glyph)
  | [] => if depth = 0 then some [] else none
  | g :: gs =>
    if escaped && (g.char = '(' || g.char = ')' || g.char = '\\') then
      afterBare limit depth false gs
    else if depth = 0 && (isGap g || g.char = ')') then some (g :: gs)
    else if g.char = ')' then afterBare limit (depth - 1) false gs
    else if g.char = '(' then
      if depth < limit then afterBare limit (depth + 1) false gs else none
    else if g.char = ' ' || isControl g.char then none
    else afterBare limit depth (g.char = '\\') gs

def afterDestination (limit : Nat) : List Glyph → Option (List Glyph)
  | [] => none
  | g :: gs =>
    if g.char = '<' then afterAngled false gs
    else if g.char = ' ' || g.char = ')' || isControl g.char then none
    else afterBare limit 0 false (g :: gs)

def afterTitleBody (closing : Char) (escaped : Bool) : List Glyph → Option (List Glyph)
  | [] => none
  | g :: gs =>
    if escaped && (g.char = closing || g.char = '\\') then afterTitleBody closing false gs
    else if g.char = closing then some gs
    else afterTitleBody closing (g.char = '\\') gs

def afterTitle : List Glyph → Option (List Glyph)
  | [] => none
  | g :: gs =>
    if g.char = '"' || g.char = '\'' then afterTitleBody g.char false gs
    else if g.char = '(' then afterTitleBody ')' false gs
    else none

/-- The round brackets that may be open in the destination of a resource. -/
def resourceDepth : Nat := 32

def afterResourceEnd : List Glyph → Option (List Glyph)
  | [] => none
  | g :: gs => if g.char = ')' then some gs else none

/-- What follows the blanks, the title if there is one, and the end of a resource. -/
def afterResourceTitle (gs : List Glyph) : Option (List Glyph) :=
  match gs with
  | [] => none
  | g :: _ =>
    if g.char = '"' || g.char = '\'' || g.char = '(' then
      match afterTitle gs with
      | none => none
      | some rest => afterResourceEnd (rest.dropWhile isGap)
    else afterResourceEnd gs

/-- What follows the resource, a destination and a title in round brackets, that `gs` starts
with. -/
def afterResource : List Glyph → Option (List Glyph)
  | [] => none
  | g :: gs =>
    if g.char = '(' then
      match afterResourceEnd (gs.dropWhile isGap) with
      | some rest => some rest
      | none =>
        match afterDestination resourceDepth (gs.dropWhile isGap) with
        | none => none
        | some [] => none
        | some (h :: rest) =>
          if isGap h then afterResourceTitle (rest.dropWhile isGap)
          else afterResourceEnd (h :: rest)
    else none

/-- What follows the line end, after spaces alone. -/
def afterLineEnd (gs : List Glyph) : Option (List Glyph) :=
  match gs.dropWhile isSpace with
  | [] => some []
  | g :: rest => if isLineEnd g then some rest else none

def afterDefinitionTitle : List Glyph → Option (List Glyph)
  | [] => none
  | g :: gs =>
    if isGap g then
      match afterTitle (gs.dropWhile isGap) with
      | none => none
      | some rest => afterLineEnd rest
    else none

/-- The key of the definition that `gs` starts with, and what follows its last line. -/
def definition (gs : List Glyph) : Option (List Char × List Glyph) :=
  match label (gs.dropWhile isSpace) with
  | some (name, colon :: rest) =>
    if colon.char = ':' then
      match afterDestination rest.length (rest.dropWhile isGap) with
      | none => none
      | some rest =>
        match afterDefinitionTitle rest with
        | some rest => some (labelKey name, rest)
        | none => (afterLineEnd rest).map fun rest => (labelKey name, rest)
    else none
  | _ => none

/-- The keys of the definitions that a paragraph starts with, and what is left of it. -/
def definitions (gs : List Glyph) : List (List Char) × List Glyph :=
  match definition gs with
  | none => ([], gs)
  | some (key, rest) =>
    if rest.length < gs.length then
      let (keys, rest) := definitions rest
      (key :: keys, rest)
    else ([key], rest)
termination_by gs.length

end Considerate.Markup
