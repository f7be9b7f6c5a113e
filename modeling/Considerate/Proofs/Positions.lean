import Considerate.Lint
import Considerate.Proofs.Words
import Mathlib.Data.List.Count

namespace Considerate.Text

def Place.Le (p q : Place) : Prop := p.line < q.line ∨ p.line = q.line ∧ p.column ≤ q.column

variable {p q : Place} {cs a b : List Char} {n : Nat}

theorem Place.Le.refl (p : Place) : p.Le p := Or.inr ⟨rfl, Nat.le_refl _⟩

theorem Place.Le.trans {r : Place} (h : p.Le q) (h' : q.Le r) : p.Le r := by
  unfold Place.Le at *
  omega

theorem Place.le_step (p : Place) (c : Char) : p.Le (p.step c) := by
  unfold Place.step
  split
  · exact Or.inl (Nat.lt_succ_self _)
  · split
    · exact .refl p
    · exact Or.inr ⟨rfl, Nat.le_add_right _ _⟩

theorem Place.le_foldl_step (p : Place) (cs : List Char) : p.Le (cs.foldl Place.step p) := by
  induction cs generalizing p with
  | nil => exact .refl p
  | cons c cs ih => exact (p.le_step c).trans (ih _)

theorem line_foldl_step (p : Place) (cs : List Char) :
    (cs.foldl Place.step p).line = p.line + cs.count '\n' := by
  induction cs generalizing p with
  | nil => rfl
  | cons c cs ih =>
    rw [List.foldl_cons, ih, Place.step]
    by_cases hn : c = '\n'
    · simp [hn]
      omega
    · by_cases hr : c = '\r' <;> simp [hn, hr]

/-- Only characters of four bytes have two code units. -/
theorem units_cases (c : Char) : units c = 1 ∨ units c = 2 ∧ c.utf8Size = 4 := by
  unfold units
  split
  · exact Or.inl rfl
  · rename_i h
    have hc : 0x10000 ≤ c.val.toNat := Nat.le_of_not_lt h
    refine Or.inr ⟨rfl, ?_⟩
    simp only [Char.utf8Size, UInt32.le_iff_toNat_le, UInt32.toNat_ofNatLT]
    split
    · omega
    · split
      · omega
      · split <;> omega

theorem units_le (c : Char) : units c ≤ c.utf8Size := by
  have := Char.utf8Size_pos c
  have := units_cases c
  omega

/-- A character moves a place on by no more than its bytes, in lines and columns together. -/
theorem Place.step_bounds (h : 1 ≤ p.column) (c : Char) :
    1 ≤ (p.step c).column ∧
      (p.step c).line + (p.step c).column ≤ p.line + p.column + c.utf8Size := by
  have := Char.utf8Size_pos c
  have := units_le c
  unfold Place.step
  split
  · exact ⟨Nat.le_refl _, by simp only; omega⟩
  · split
    · exact ⟨h, by omega⟩
    · exact ⟨by simp only; omega, by simp only; omega⟩

theorem foldl_step_bounds (h : 1 ≤ p.column) (cs : List Char) :
    1 ≤ (cs.foldl Place.step p).column ∧
      (cs.foldl Place.step p).line + (cs.foldl Place.step p).column ≤
        p.line + p.column + byteSize cs := by
  induction cs generalizing p with
  | nil => exact ⟨h, by simp [byteSize]⟩
  | cons c cs ih =>
    obtain ⟨hc, hs⟩ := p.step_bounds h c
    obtain ⟨hc', hs'⟩ := ih hc
    refine ⟨hc', ?_⟩
    simp only [List.foldl_cons, byteSize]
    omega

theorem Place.exists_of_advance (h : p.advance cs n = some q) :
    ∃ a b, cs = a ++ b ∧ byteSize a = n ∧ a.foldl Place.step p = q := by
  induction cs generalizing p n with
  | nil =>
    cases n with
    | zero =>
      cases h
      exact ⟨[], [], rfl, rfl, rfl⟩
    | succ n => cases h
  | cons c cs ih =>
    cases n with
    | zero =>
      cases h
      exact ⟨[], c :: cs, rfl, rfl, rfl⟩
    | succ n =>
      rw [Place.advance] at h
      split at h
      · obtain ⟨a, b, rfl, hn, hq⟩ := ih h
        refine ⟨c :: a, b, rfl, ?_, hq⟩
        rw [byteSize, hn]
        omega
      · cases h

/-- In a text of less than 2³² - 1 bytes the numbers of all places fit into 32 bits. -/
theorem Place.fits_of_short (short : byteSize cs + 1 < UInt32.size) (hq : placeAt cs n = some q) :
    q.line < UInt32.size ∧ q.column < UInt32.size := by
  obtain ⟨a, b, rfl, _, rfl⟩ := Place.exists_of_advance hq
  have line := line_foldl_step ⟨1, 1⟩ a
  obtain ⟨column, bound⟩ := foldl_step_bounds (p := ⟨1, 1⟩) (Nat.le_refl 1) a
  rw [byteSize_append] at short
  simp only at line column bound
  omega

theorem append_inj_of_byteSize {c d : List Char} (h : a ++ b = c ++ d)
    (hl : byteSize a ≤ byteSize c) : ∃ e, c = a ++ e ∧ b = e ++ d := by
  rcases List.append_eq_append_iff.mp h with ⟨e, rfl, rfl⟩ | ⟨e, rfl, rfl⟩
  · exact ⟨e, rfl, rfl⟩
  · rw [byteSize_append] at hl
    cases e with
    | nil => exact ⟨[], by simp, by simp⟩
    | cons x e =>
      have := Char.utf8Size_pos x
      simp only [byteSize] at hl
      omega

def Place.Lt (p q : Place) : Prop := p.line < q.line ∨ p.line = q.line ∧ p.column < q.column

/-- All characters but a carriage return move a place on. -/
theorem Place.lt_step {c : Char} (h : c ≠ '\r') (p : Place) : p.Lt (p.step c) := by
  by_cases feed : c = '\n'
  · rw [step, if_pos feed]
    exact Or.inl (Nat.lt_succ_self _)
  · rw [step, if_neg feed, if_neg h]
    have : 0 < units c := by
      unfold units
      split <;> decide
    exact Or.inr ⟨rfl, Nat.lt_add_of_pos_right this⟩

theorem Place.Lt.trans_le {r : Place} (h : p.Lt q) (h' : q.Le r) : p.Lt r := by
  unfold Place.Lt Place.Le at *
  omega

theorem Place.lt_of_letter {before behind : List Char} {c : Char} {n : Nat} (hc : c.isAlpha = true)
    (hp : placeAt (before ++ c :: behind) (byteSize before) = some p)
    (hq : placeAt (before ++ c :: behind) n = some q) (h : byteSize before + c.utf8Size ≤ n) :
    p.Lt q := by
  rw [placeAt, Place.advance_append] at hp
  cases hp
  obtain ⟨a, b, he, ha, rfl⟩ := Place.exists_of_advance hq
  rw [List.append_cons] at he
  obtain ⟨e, rfl, _⟩ := append_inj_of_byteSize he (by simp [byteSize, ha, h])
  rw [List.foldl_append, List.foldl_append]
  have back : c ≠ '\r' := by
    rintro rfl
    cases hc
  exact (Place.lt_step back _).trans_le (Place.le_foldl_step _ e)

/-- A byte that is no earlier than another has a place that is no earlier. -/
theorem Place.le_of_le {m n : Nat} (hp : placeAt cs m = some p) (hq : placeAt cs n = some q)
    (h : m ≤ n) : p.Le q := by
  obtain ⟨a, b, rfl, ha, rfl⟩ := Place.exists_of_advance hp
  obtain ⟨a', b', he, ha', rfl⟩ := Place.exists_of_advance hq
  obtain ⟨e, rfl, _⟩ := append_inj_of_byteSize he (by omega)
  rw [List.foldl_append]
  exact Place.le_foldl_step _ e

theorem byteSize_of_ascii (h : ∀ c ∈ cs, c.toNat < 0x80) : byteSize cs = cs.length := by
  induction cs with
  | nil => rfl
  | cons c cs ih =>
    have one : c.utf8Size = 1 :=
      Char.utf8Size_eq_one_iff.mpr (Nat.le_of_lt_succ (h c List.mem_cons_self))
    rw [byteSize, ih fun d hd => h d (List.mem_cons_of_mem _ hd), one, List.length_cons, Nat.add_comm]

theorem byteSize_replicate {c : Char} (ascii : c.toNat < 0x80) (n : Nat) :
    byteSize (List.replicate n c) = n := by
  rw [byteSize_of_ascii, List.length_replicate]
  intro d hd
  rwa [List.eq_of_mem_replicate hd]

theorem length_le_byteSize (cs : List Char) : cs.length ≤ byteSize cs := by
  induction cs with
  | nil => exact Nat.le_refl 0
  | cons c cs ih =>
    have := Char.utf8Size_pos c
    rw [List.length_cons, byteSize]
    omega

theorem count_lt_byteSize {c : Char} (hc : c ∈ cs) (hn : c ≠ '\n') :
    cs.count '\n' < byteSize cs :=
  Nat.lt_of_lt_of_le (List.count_lt_length_iff.mpr ⟨c, hc, hn⟩) (length_le_byteSize cs)

/-- What is known of the places at the ends of a part of a short text: they are in order, and all
their numbers but perhaps the last column fit into 32 bits. -/
structure Ends (p q : Place) : Prop where
  le : p.Le q
  line : 1 ≤ p.line
  column : 1 ≤ p.column
  column' : 1 ≤ q.column
  startColumn : p.column < UInt32.size
  stopLine : q.line < UInt32.size
  stopColumn : q.column ≤ UInt32.size
  last : q.column = UInt32.size → q.line = p.line

theorem Ends.lines (h : Ends p q) : p.line ≤ q.line := by
  have := h.le
  unfold Place.Le at this
  omega

theorem Ends.startLine (h : Ends p q) : p.line < UInt32.size := Nat.lt_of_le_of_lt h.lines h.stopLine

theorem ends_of_places {start stop : Nat} (hp : placeAt cs start = some p)
    (hq : placeAt cs stop = some q) (lt : start < stop) (small : byteSize cs < UInt32.size)
    {c : Char} (hc : c ∈ cs) (hn : c ≠ '\n') : Ends p q := by
  obtain ⟨a, b, rfl, ha, rfl⟩ := Place.exists_of_advance hp
  obtain ⟨a', b', he, ha', rfl⟩ := Place.exists_of_advance hq
  obtain ⟨e, rfl, rfl⟩ := append_inj_of_byteSize he (by omega)
  rw [List.foldl_append]
  have hcount := count_lt_byteSize hc hn
  simp only [byteSize_append, List.count_append] at small hcount ha'
  generalize hpl : a.foldl Place.step ⟨1, 1⟩ = p
  have hline := line_foldl_step ⟨1, 1⟩ a
  have hline' := line_foldl_step p e
  obtain ⟨hcol, hsum⟩ := foldl_step_bounds (p := ⟨1, 1⟩) (Nat.le_refl 1) a
  rw [hpl] at hline hcol hsum
  obtain ⟨hcol', hsum'⟩ := foldl_step_bounds hcol e
  have hle := p.le_foldl_step e
  generalize e.foldl Place.step p = q at *
  simp only at *
  refine ⟨hle, by omega, hcol, hcol', by omega, by omega, by omega, ?_⟩
  intro last
  omega

end Considerate.Text

namespace Considerate

open Text

namespace Position

/-- Whether one position comes after another, as a fact about numbers. -/
theorem le_iff {p q : Position} : p.le q = true ↔
    p.line.toNat < q.line.toNat ∨
      p.line.toNat = q.line.toNat ∧ p.character.toNat ≤ q.character.toNat := by
  simp only [le, Bool.or_eq_true, Bool.and_eq_true, decide_eq_true_eq, UInt32.lt_iff_toNat_lt,
    UInt32.le_iff_toNat_le, ← UInt32.toNat_inj]

theorem le_refl (p : Position) : p.le p = true := le_iff.mpr (Or.inr ⟨rfl, Nat.le_refl _⟩)

theorem le_trans {p q r : Position} (h : p.le q = true) (h' : q.le r = true) : p.le r = true := by
  rw [le_iff] at *
  omega

theorem le_total (p q : Position) : p.le q = true ∨ q.le p = true := by
  rw [le_iff, le_iff]
  omega

end Position

theorem ofNat_pred {n : Nat} (pos : 1 ≤ n) (lt : n < UInt32.size) :
    UInt32.ofNat n ≠ 0 ∧ (UInt32.ofNat n - 1).toNat = n - 1 := by
  have hn : (UInt32.ofNat n).toNat = n := UInt32.toNat_ofNat_of_lt' lt
  constructor
  · intro he
    rw [he] at hn
    simp at hn
    omega
  · rw [UInt32.toNat_sub_of_le]
    · rw [hn]
      rfl
    · rw [UInt32.le_iff_toNat_le, hn]
      exact pos

theorem toNat_fromZero {n : Nat} (pos : 1 ≤ n) (lt : n < UInt32.size) (substitute : Option UInt32) :
    (fromZero (some (.ofNat n)) substitute).toNat = n - 1 := by
  obtain ⟨hne, hn⟩ := ofNat_pred pos lt
  rw [fromZero, if_neg hne, hn]

/-- A number that has run out gives way to its substitute. -/
theorem toNat_fromZero_of_overflow {n : Nat} (pos : 1 ≤ n) (lt : n < UInt32.size) :
    (fromZero (some (.ofNat UInt32.size)) (some (.ofNat n))).toNat = n - 1 := by
  obtain ⟨hne, hn⟩ := ofNat_pred pos lt
  have hz : UInt32.ofNat UInt32.size = 0 := rfl
  rw [fromZero, hz, if_pos rfl, fromZero.fromKnown, if_neg hne, hn]

variable {p q : Place} {m : Message}

/-- The message lies between the places. -/
structure Message.Spans (m : Message) (p q : Place) : Prop where
  line : m.line = some (.ofNat p.line)
  column : m.column = some (.ofNat p.column)
  location : m.location = ⟨.ofPlace p, .ofPlace q⟩

/-- The range of a diagnostic has the lines and columns of the message, counted from 0. If there is
no number for the column at its end, it is that at its start. -/
theorem range_ofMessage (ends : Ends p q) (spans : m.Spans p q) (index : Nat) :
    let range := (Diagnostic.ofMessage index m).range
    range.start.line.toNat = p.line - 1 ∧ range.start.character.toNat = p.column - 1 ∧
      range.stop.line.toNat = q.line - 1 ∧
      (q.column < UInt32.size → range.stop.character.toNat = q.column - 1) ∧
      (q.column = UInt32.size → range.stop.character.toNat = p.column - 1) := by
  have startLine := ends.startLine
  have lines := ends.lines
  obtain ⟨le, line, column, column', startColumn, stopLine, stopColumn, _⟩ := ends
  simp only [Diagnostic.ofMessage, spans.location, Point.position, Point.ofPlace, spans.line,
    spans.column]
  refine ⟨toNat_fromZero line startLine _, toNat_fromZero column startColumn _,
    toNat_fromZero (by omega) stopLine _, fun lt => toNat_fromZero column' lt _, fun he => ?_⟩
  rw [he]
  exact toNat_fromZero_of_overflow column startColumn

end Considerate
