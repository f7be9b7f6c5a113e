import Considerate.Rule
import Considerate.Text.Blank
import Considerate.Text.Fold
import Considerate.Text.Word

namespace Considerate

open Text

/-- Whether `w` is the phrase word `p` in some letter case. -/
def Text.Word.spells (w : Word) (p : String) : Bool := fold w.text == p.toList

/-- Whether the words go on with the phrase words, with white space only before each. -/
def continuesWith : List String → List Word → Bool
  | [], _ => true
  | _ :: _, [] => false
  | p :: ps, w :: ws => w.gap.all isBlank && w.spells p && continuesWith ps ws

def Rule.matchesAt (r : Rule) : List Word → Bool
  | [] => r.phrase.isEmpty
  | w :: ws =>
    match r.phrase with
    | [] => true
    | p :: ps => w.spells p && continuesWith ps ws

/-- Of two rules the one with the longer phrase, of equals the second. -/
def longer : Option Rule → Rule → Option Rule
  | none, r => some r
  | some a, r => if r.phrase.length < a.phrase.length then some a else some r

/-- The rule with the longest phrase that the words start with; of equals the last one. -/
def longestMatch (rules : List Rule) (ws : List Word) : Option Rule :=
  (rules.filter (·.matchesAt ws)).foldl longer none

/-- A rule and the words that spell its phrase. -/
structure Match where
  rule : Rule
  words : List Word
  deriving DecidableEq, Repr

namespace Match

def start (m : Match) : Nat :=
  match m.words with
  | [] => 0
  | w :: _ => w.start

def stop (m : Match) : Nat :=
  match m.words.getLast? with
  | none => 0
  | some w => w.stop

def text (m : Match) : List Char :=
  match m.words with
  | [] => []
  | w :: ws => w.text ++ ws.flatMap fun v => v.gap ++ v.text

end Match

/-- The matches in a run of words that do not share a word, from left to right. -/
def scan (rules : List Rule) : List Word → List Match
  | [] => []
  | w :: ws =>
    match longestMatch rules (w :: ws) with
    | none => scan rules ws
    | some r =>
      ⟨r, (w :: ws).take r.phrase.length⟩ :: scan rules (ws.drop (r.phrase.length - 1))
termination_by ws => ws.length
decreasing_by all_goals (simp_wf; try omega)

end Considerate
