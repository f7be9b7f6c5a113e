import Considerate.Match
import Considerate.Text.Place
import Mathlib.Data.List.Chain

namespace Considerate.Text

/-- The span starts and stops between characters of the text. -/
def Span.Within (s : Span) (cs : List Char) : Prop :=
  ∃ before inside behind, cs = before ++ (inside ++ behind) ∧
    s = ⟨byteSize before, byteSize before + byteSize inside⟩

/-- From byte `at_` on, the text has the words in their order, each behind its gap. -/
inductive Laid : Nat → List Char → List Word → Prop
  | nil (at_ : Nat) (rest : List Char) : Laid at_ rest []
  | cons (at_ : Nat) (w : Word) (rest : List Char) (ws : List Word)
      (start : w.start = at_ + byteSize w.gap) (later : Laid w.stop rest ws) :
      Laid at_ (w.gap ++ (w.text ++ rest)) (w :: ws)

theorem laid_wordsOf (at_ : Nat) (gap : List Char) (ss : List (List Char)) :
    Laid at_ (gap ++ ss.flatten) (wordsOf (at_ + byteSize gap) gap ss) := by
  induction ss generalizing at_ gap with
  | nil => exact .nil ..
  | cons s ss ih =>
    unfold wordsOf
    split
    · have later := ih (at_ + byteSize gap + byteSize s) []
      exact .cons at_ ⟨gap, _, s⟩ ss.flatten _ rfl later
    · have later := ih at_ (gap ++ s)
      simpa [Nat.add_assoc] using later

theorem laid_words (offset : Nat) (cs : List Char) : Laid offset cs (words offset cs) := by
  have h := laid_wordsOf offset [] (segments cs)
  rw [flatten_segments] at h
  exact h

variable {at_ : Nat} {cs before behind : List Char} {vs ws later : List Word} {w : Word}

theorem Laid.drop (h : Laid at_ cs (vs ++ ws)) :
    ∃ skipped rest, cs = skipped ++ rest ∧ Laid (at_ + byteSize skipped) rest ws := by
  induction vs generalizing at_ cs with
  | nil => exact ⟨[], cs, rfl, h⟩
  | cons v vs ih =>
    cases h with
    | cons _ _ rest _ start later =>
      obtain ⟨skipped, rest', he, hl⟩ := ih later
      refine ⟨v.gap ++ (v.text ++ skipped), rest', by simp [he], ?_⟩
      have hs : v.stop + byteSize skipped = at_ + byteSize (v.gap ++ (v.text ++ skipped)) := by
        simp [Word.stop, start, Nat.add_assoc]
      exact hs ▸ hl

/-- Words that follow each other are one part of the text with their gaps. -/
theorem Laid.run (h : Laid at_ cs (w :: ws ++ later)) (r : Rule) :
    ∃ rest, cs = w.gap ++ (Match.text ⟨r, w :: ws⟩ ++ rest) ∧ w.start = at_ + byteSize w.gap ∧
      Match.stop ⟨r, w :: ws⟩ = w.start + byteSize (Match.text ⟨r, w :: ws⟩) := by
  induction ws generalizing at_ cs w with
  | nil =>
    cases h with
    | cons _ _ rest _ start =>
      refine ⟨rest, by simp [Match.text], start, ?_⟩
      simp [Match.text, Match.stop, Word.stop]
  | cons v ws ih =>
    cases h with
    | cons _ _ rest _ start next =>
      obtain ⟨rest', he, hv, hs⟩ := ih next
      refine ⟨rest', ?_, start, ?_⟩
      · simp [he, Match.text]
      · have hlast : Match.stop ⟨r, w :: v :: ws⟩ = Match.stop ⟨r, v :: ws⟩ := by simp [Match.stop]
        rw [hlast, hs, hv]
        simp [Match.text, Word.stop, Nat.add_assoc]

/-- Between a word and the next one the document has the gap of the next one. -/
theorem Laid.gaps (h : Laid (byteSize before) cs ws) (behind : List Char) :
    ws.IsChain fun v w => ∃ a b, before ++ (cs ++ behind) = a ++ (w.gap ++ b) ∧
      v.stop = byteSize a ∧ w.start = byteSize a + byteSize w.gap := by
  generalize hb : byteSize before = at_ at h
  induction h generalizing before with
  | nil => exact .nil
  | cons at_ v rest ws start later ih =>
    have hd : before ++ ((v.gap ++ (v.text ++ rest)) ++ behind) =
        (before ++ (v.gap ++ v.text)) ++ (rest ++ behind) := by simp
    have hv : byteSize (before ++ (v.gap ++ v.text)) = v.stop := by
      simp [Word.stop, start, hb, Nat.add_assoc]
    rw [hd]
    -- The document is the same, with one word more before the part that is left.
    have chain := ih hv
    cases later with
    | nil => exact .singleton v
    | cons _ w rest ws start =>
      refine .cons_cons ⟨_, w.text ++ rest ++ behind, ?_, hv.symm, ?_⟩ chain
      · rw [List.append_assoc w.gap]
      · rw [start, hv]

/-- What is sliced out between a word and the next one is the gap of the next one. -/
theorem Laid.chain (h : Laid (byteSize before) cs ws) :
    ws.IsChain fun v w => (Span.mk v.stop w.start).slice (before ++ (cs ++ behind)) = w.gap := by
  refine (h.gaps behind).imp ?_
  rintro v w ⟨a, b, hd, hv, hw⟩
  rw [hd, hv, hw]
  exact Span.slice_append ..

theorem Place.advance_append (p : Place) (a b : List Char) :
    p.advance (a ++ b) (byteSize a) = some (a.foldl Place.step p) := by
  induction a generalizing p with
  | nil => cases b <;> rfl
  | cons c a ih =>
    have hc : c.utf8Size + byteSize a ≠ 0 := by
      have := Char.utf8Size_pos c
      omega
    obtain ⟨n, hn⟩ := Nat.exists_eq_succ_of_ne_zero hc
    have hle : c.utf8Size ≤ n + 1 := by omega
    have hsub : n + 1 - c.utf8Size = byteSize a := by omega
    simp [byteSize, hn, Place.advance, hle, hsub, ih]

/-- Where a character starts, and behind the last one, there is a place. -/
theorem exists_placeAt (a b : List Char) : ∃ p, placeAt (a ++ b) (byteSize a) = some p :=
  ⟨_, Place.advance_append ⟨1, 1⟩ a b⟩

end Considerate.Text
