import Considerate.Proofs.Positions

namespace Considerate.Text

variable {b b' : Before} {c : Char} {a rest cs : List Char} {ss ts : List (List Char)}

/-- To the rules a line end before the last base is the same as nothing. -/
structure Before.Like (b b' : Before) : Prop where
  last : b.last = b'.last
  base : b.base = b'.base
  oddRegionals : b.oddRegionals = b'.oddRegionals
  previous : b.previous = b'.previous ∨ b.previous = none ∧ b'.previous = some .lineFeed

theorem Before.Like.push (h : b.Like b') (c : Char) : (b.push c).Like (b'.push c) := by
  obtain ⟨last, base, odd, previous⟩ := h
  have extensible : b.extensible = b'.extensible := by simp only [Before.extensible, base]
  simp only [Before.push, extensible]
  split
  · exact ⟨rfl, base, odd, previous⟩
  · exact ⟨rfl, by simp only [last], by simp only [base, odd], Or.inl base⟩

theorem Before.Like.isBoundary (h : b.Like b') (cs : List Char) :
    b.isBoundary cs = b'.isBoundary cs := by
  obtain ⟨last, base, odd, previous⟩ := h
  have letter : b.previous.any WordClass.isLetter = b'.previous.any WordClass.isLetter := by
    rcases previous with same | ⟨none, feed⟩
    · rw [same]
    · rw [none, feed]
      rfl
  have class_ : ∀ k : WordClass, k ≠ .lineFeed → (b.previous = some k ↔ b'.previous = some k) := by
    intro k hk
    rcases previous with same | ⟨none, feed⟩
    · rw [same]
    · simp [none, feed, hk.symm]
  cases cs with
  | nil => rfl
  | cons c cs =>
    simp only [Before.isBoundary, Before.continues, last, base, odd, letter,
      class_ .hebrew (by decide), class_ .numeric (by decide)]

theorem Before.Like.segmentsAfter (h : b.Like b') (cs : List Char) :
    segmentsAfter b cs = segmentsAfter b' cs := by
  induction cs generalizing b b' with
  | nil => rfl
  | cons c cs ih => rw [Text.segmentsAfter, Text.segmentsAfter, ih (h.push c), (h.push c).isBoundary]

/-- What keeps two texts apart: a full stop between line feeds. -/
def separator : List Char := ['\n', '.', '\n']

def Word.moved (d : Nat) (w : Word) : Word := { w with start := w.start + d }

/-- The words with more text before the first one. -/
def behind (gap : List Char) : List Word → List Word
  | [] => []
  | w :: ws => { w with gap := gap ++ w.gap } :: ws

variable {p : Place} {n : Nat}

end Considerate.Text
