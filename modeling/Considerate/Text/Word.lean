import Considerate.Text.Alphanumeric
import Considerate.Text.Offset
import Considerate.Text.WordClass

namespace Considerate.Text

/-- What the rules look back at from a position in a text. -/
structure Before where
  last : Option WordClass := none
  base : Option WordClass := none
  previous : Option WordClass := none
  /-- Whether an odd number of regional indicators in a row ends here. -/
  oddRegionals : Bool := false
  deriving DecidableEq, Repr

/-- At the start of a text and after a line end nothing can be extended. -/
def Before.extensible (b : Before) : Bool :=
  match b.base with
  | none => false
  | some k => !k.isLineEnd

/-- The record after one more character. A pictograph that follows a joiner counts as no letter. -/
def Before.push (b : Before) (c : Char) : Before :=
  let k := WordClass.of c
  if k.isTrailing && b.extensible then { b with last := some k }
  else
    { last := some k
      base := some (if b.last = some .joiner && isPictograph c then .other else k)
      previous := b.base
      oddRegionals := k = .regional && !(b.base = some .regional && b.oddRegionals) }

def nextClass : List Char → Option WordClass
  | [] => none
  | c :: cs => if (WordClass.of c).isTrailing then nextClass cs else some (WordClass.of c)

def Before.continues (b : Before) (k : WordClass) (rest : List Char) : Bool :=
  match b.base with
  | none => false
  | some base =>
    (base.isLetter && k.isLetter) ||
    (base.isLetter && k.joinsLetters && (nextClass rest).any WordClass.isLetter) ||
    (base.joinsLetters && k.isLetter && b.previous.any WordClass.isLetter) ||
    (base = .hebrew && k = .singleQuote) ||
    (base = .hebrew && k = .doubleQuote && nextClass rest = some .hebrew) ||
    (base = .doubleQuote && k = .hebrew && b.previous = some .hebrew) ||
    ((base.isLetter || base = .numeric) && k = .numeric) ||
    (base = .numeric && k.isLetter) ||
    (base.joinsDigits && k = .numeric && b.previous = some .numeric) ||
    (base = .numeric && k.joinsDigits && nextClass rest = some .numeric) ||
    (base = .katakana && k = .katakana) ||
    ((base.isLetter || base = .numeric || base = .katakana || base = .connector) &&
      k = .connector) ||
    (base = .connector && (k.isLetter || k = .numeric || k = .katakana)) ||
    (base = .regional && k = .regional && b.oddRegionals)

/-- Whether a boundary stands at the position that `rest` follows. -/
def Before.isBoundary (b : Before) : List Char → Bool
  | [] => true
  | c :: rest =>
    let k := WordClass.of c
    match b.last with
    | none => true
    | some last =>
      if last = .carriageReturn && k = .lineFeed then false
      else if last.isLineEnd || k.isLineEnd then true
      else if last = .joiner && isPictograph c then false
      else if last = .space && k = .space then false
      else if k.isTrailing then false
      else !b.continues k rest

/-- Cuts a text, of which `b` records what precedes it, at its boundaries. -/
def segmentsAfter (b : Before) : List Char → List (List Char)
  | [] => []
  | c :: cs =>
    match segmentsAfter (b.push c) cs with
    | [] => [[c]]
    | s :: ss => if (b.push c).isBoundary cs then [c] :: s :: ss else (c :: s) :: ss

/-- The segments between the word boundaries of a text. -/
def segments (cs : List Char) : List (List Char) :=
  segmentsAfter {} cs

structure Word where
  /-- What stands between the word before it, or the start of the text, and this word. -/
  gap : List Char
  start : Nat
  text : List Char
  deriving DecidableEq, Repr

def Word.stop (w : Word) : Nat := w.start + byteSize w.text

/-- The segments that hold a letter or a number, the first segment starting at `offset`. -/
def wordsOf (offset : Nat) (gap : List Char) : List (List Char) → List Word
  | [] => []
  | s :: ss =>
    if s.any isAlphanumeric then ⟨gap, offset, s⟩ :: wordsOf (offset + byteSize s) [] ss
    else wordsOf (offset + byteSize s) (gap ++ s) ss

/-- The words of a text that starts at byte `offset` of a document. -/
def words (offset : Nat) (cs : List Char) : List Word :=
  wordsOf offset [] (segments cs)

theorem flatten_segmentsAfter (b : Before) (cs : List Char) :
    (segmentsAfter b cs).flatten = cs := by
  induction cs generalizing b with
  | nil => rfl
  | cons c cs ih =>
    have h := ih (b.push c)
    unfold segmentsAfter
    split
    · simp_all
    · split <;> simp_all

theorem flatten_segments (cs : List Char) : (segments cs).flatten = cs :=
  flatten_segmentsAfter {} cs

end Considerate.Text
