import Considerate.Proofs.Messages
import Considerate.Proofs.Positions
import Considerate.Proofs.Segments

namespace Considerate

namespace Text

/-- A word behind exclamation marks, each of which takes up a byte and a column. -/
def behindMarks (n : Nat) (w : List Char) : List Char := List.replicate n '!' ++ w

variable {w cs : List Char} {p : Place}

theorem Before.push_mark (b : Before) : b.push '!' = ⟨some .other, some .other, b.base, false⟩ := by
  have other : WordClass.of '!' = .other := by decide
  have plain : isPictograph '!' = false := by decide +kernel
  simp [push, other, plain, WordClass.isTrailing]

theorem Before.isBoundary_behind_mark (b : Before) {c : Char}
    (h : WordClass.of c = .other ∨ WordClass.of c = .letter) (rest : List Char) :
    (b.push '!').isBoundary (c :: rest) = true := by
  rw [push_mark]
  rcases h with h | h <;>
    simp [isBoundary, continues, h, WordClass.isTrailing, WordClass.isLineEnd, WordClass.isLetter,
      WordClass.joinsLetters, WordClass.joinsDigits]

theorem flatten_marks (n : Nat) (w : List Char) :
    (List.replicate n ['!'] ++ [w]).flatten = behindMarks n w := by
  simp [behindMarks]

theorem cut_marks (latin : IsLatin w) (n : Nat) (b : Before) :
    Cut b (List.replicate n ['!'] ++ [w]) := by
  induction n generalizing b with
  | zero => exact .of_isLatin latin rfl (.nil _) b
  | succ n ih =>
    refine .apart b '!' (List.replicate n ['!'] ++ [w]) ?_ (ih _)
    rw [flatten_marks]
    cases n with
    | zero =>
      obtain ⟨letters, length⟩ := latin
      match w, length with
      | c :: w, _ =>
        exact b.isBoundary_behind_mark (Or.inr (class_of_isAlpha (letters c (by simp)))) w
    | succ n => exact b.isBoundary_behind_mark (Or.inl (by decide)) _

theorem wordsOf_marks (latin : IsLatin w) (offset n : Nat) (gap : List Char) :
    wordsOf offset gap (List.replicate n ['!'] ++ [w]) =
      [⟨gap ++ List.replicate n '!', offset + n, w⟩] := by
  induction n generalizing offset gap with
  | zero => simp [wordsOf, latin.any_isAlphanumeric]
  | succ n ih =>
    have silent : ['!'].any isAlphanumeric = false := by decide
    have byte : byteSize ['!'] = 1 := rfl
    rw [List.replicate_succ, List.cons_append, wordsOf, silent, if_neg Bool.false_ne_true, byte, ih,
      List.append_assoc, List.singleton_append, ← List.replicate_succ, Nat.add_assoc, Nat.add_comm 1]

theorem words_behindMarks (latin : IsLatin w) (n : Nat) :
    words 0 (behindMarks n w) = [⟨List.replicate n '!', n, w⟩] := by
  have cut := (cut_marks latin n {}).segmentsAfter_eq
  rw [flatten_marks] at cut
  rw [words, segments, cut, wordsOf_marks latin, List.nil_append, Nat.zero_add]

/-- Each character of the text takes up a byte and a column. -/
def IsPlain (cs : List Char) : Prop := ∀ c ∈ cs, c.toNat < 0x80 ∧ c ≠ '\n' ∧ c ≠ '\r'

theorem IsPlain.byteSize_eq (h : IsPlain cs) : byteSize cs = cs.length :=
  byteSize_of_ascii fun c hc => (h c hc).1

theorem IsPlain.foldl_step (h : IsPlain cs) (p : Place) :
    cs.foldl Place.step p = ⟨p.line, p.column + cs.length⟩ := by
  induction cs generalizing p with
  | nil => rfl
  | cons c cs ih =>
    obtain ⟨ascii, feed, back⟩ := h c List.mem_cons_self
    have one : units c = 1 := if_pos (Nat.lt_trans ascii (by decide))
    rw [List.foldl_cons, ih (fun d hd => h d (List.mem_cons_of_mem _ hd)), Place.step, if_neg feed,
      if_neg back, one, List.length_cons, Nat.add_assoc, Nat.add_comm 1]

theorem IsPlain.placeAt_eq (h : IsPlain cs) {n : Nat} (hp : placeAt cs n = some p) :
    p = ⟨1, 1 + n⟩ := by
  obtain ⟨a, b, rfl, rfl, rfl⟩ := Place.exists_of_advance hp
  have plain : IsPlain a := fun c hc => h c (List.mem_append_left b hc)
  rw [plain.foldl_step, plain.byteSize_eq]

theorem isPlain_marks (n : Nat) : IsPlain (List.replicate n '!') := by
  intro c hc
  rw [List.eq_of_mem_replicate hc]
  decide

theorem IsLatin.isPlain (h : IsLatin w) : IsPlain w := by
  intro c hc
  have letter := h.letters c hc
  refine ⟨lt_of_isAlpha letter, ?_, ?_⟩ <;>
  · rintro rfl
    exact absurd letter (by decide)

theorem isPlain_behindMarks (latin : IsLatin w) (n : Nat) : IsPlain (behindMarks n w) := by
  intro c hc
  rcases List.mem_append.mp hc with hc | hc
  · exact isPlain_marks n c hc
  · exact latin.isPlain c hc

theorem byteSize_behindMarks (latin : IsLatin w) (n : Nat) :
    byteSize (behindMarks n w) = n + w.length := by
  rw [behindMarks, byteSize_append, byteSize_replicate (by decide), latin.isPlain.byteSize_eq]

theorem placeAt_behindMarks (latin : IsLatin w) (n : Nat) :
    placeAt (behindMarks n w) n = some ⟨1, 1 + n⟩ ∧
      placeAt (behindMarks n w) (n + w.length) = some ⟨1, 1 + n + w.length⟩ := by
  have marks := isPlain_marks n
  have start := Place.advance_append ⟨1, 1⟩ (List.replicate n '!') w
  have stop := Place.advance_append ⟨1, 1⟩ (behindMarks n w) []
  rw [byteSize_replicate (by decide), marks.foldl_step, List.length_replicate] at start
  rw [byteSize_behindMarks latin, List.append_nil, behindMarks, List.foldl_append, marks.foldl_step,
    latin.isPlain.foldl_step, List.length_replicate] at stop
  exact ⟨start, stop⟩

end Text

open Text

variable {s : Settings} {r : Rule} {w : List Char}

theorem scan_single {rules : List Rule} {v : Word} (longest : longestMatch rules [v] = some r)
    (worded : r.phrase ≠ []) : scan rules [v] = [⟨r, [v]⟩] := by
  obtain ⟨p, ps, phrase⟩ := List.exists_cons_of_ne_nil worded
  rw [scan, longest]
  simp [phrase, scan]

/-- A word behind exclamation marks that a rule is about is all that there is a message on, in the
columns behind the marks. -/
theorem check_behindMarks (valid : s.conflicting = false) (latin : IsLatin w)
    (longest : longestMatch s.rules [⟨[], 0, w⟩] = some r) (worded : r.phrase ≠ []) (n : Nat) :
    ∃ message, check s .text (.ofList (behindMarks n w)) = .ok [message] ∧
      message.reason = r.reason (.ofList w) ∧ message.Spans ⟨1, 1 + n⟩ ⟨1, 1 + n + w.length⟩ := by
  obtain ⟨start, stop⟩ := placeAt_behindMarks latin n
  have found : matchesIn s.rules (behindMarks n w) [⟨0, byteSize (behindMarks n w)⟩] =
      [⟨r, [⟨List.replicate n '!', n, w⟩]⟩] := by
    rw [matchesIn_whole, words_behindMarks latin]
    exact scan_single longest worded
  rw [check_eq valid rfl, String.toList_ofList, found]
  have ends : Match.start ⟨r, [⟨List.replicate n '!', n, w⟩]⟩ = n ∧
      Match.stop ⟨r, [⟨List.replicate n '!', n, w⟩]⟩ = n + w.length :=
    ⟨rfl, congrArg (n + ·) latin.isPlain.byteSize_eq⟩
  have text : Match.text ⟨r, [⟨List.replicate n '!', n, w⟩]⟩ = w := List.append_nil w
  simp only [List.filterMap_cons, List.filterMap_nil, Match.message, ends, start, stop, text]
  refine ⟨_, rfl, ?_, ?_⟩
  · cases r.isFatal <;> rfl
  · cases r.isFatal <;> exact ⟨rfl, rfl, rfl⟩

end Considerate
