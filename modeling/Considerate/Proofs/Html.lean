import Considerate.Proofs.Prose
import Mathlib.Data.List.Find
import Mathlib.Data.List.TakeWhile

namespace Considerate.Markup.Html

open Text

variable {c : Char} {name pat text skipped cs rest rest' closing y u : List Char}

theorem closing_mark_not_mem (h : name ∈ rawElements) : '>' ∉ name := by
  revert name
  decide

theorem exists_of_afterTagEnd (h : afterTagEnd cs = some rest) :
    ∃ y, cs = y ++ '>' :: rest ∧ '>' ∉ y := by
  induction cs with
  | nil => cases h
  | cons c cs ih =>
    rw [afterTagEnd] at h
    split at h
    · rename_i hc
      cases h
      exact ⟨[], by rw [hc]; rfl, by simp⟩
    · rename_i hc
      obtain ⟨y, rfl, hy⟩ := ih h
      refine ⟨c :: y, rfl, ?_⟩
      rw [List.mem_cons, not_or]
      exact ⟨Ne.symm hc, hy⟩

theorem afterTagEnd_append (h : '>' ∉ y) (rest : List Char) :
    afterTagEnd (y ++ '>' :: rest) = some rest := by
  induction y with
  | nil => simp [afterTagEnd]
  | cons c y ih =>
    rw [List.mem_cons, not_or] at h
    rw [List.cons_append, afterTagEnd, if_neg (Ne.symm h.1), ih h.2]

/-- A name is no longer than what stands before the next `>`, and what follows that does not
matter. -/
theorem startsWithName_append (h : '>' ∉ pat) (y rest rest' : List Char) :
    startsWithName pat (y ++ '>' :: rest) = startsWithName pat (y ++ '>' :: rest') ∧
      (startsWithName pat (y ++ '>' :: rest) = true → pat.length ≤ y.length) := by
  unfold startsWithName
  induction pat generalizing y with
  | nil => simp
  | cons p pat ih =>
    rw [List.mem_cons, not_or] at h
    cases y with
    | nil =>
      have hne : (p == '>') = false := beq_eq_false_iff_ne.mpr (Ne.symm h.1)
      have lower : '>'.toLower = '>' := rfl
      simp [List.isPrefixOf, lower, hne]
    | cons c y =>
      obtain ⟨same, short⟩ := ih h.2 y
      simp only [List.cons_append, List.map_cons, List.isPrefixOf, same, Bool.and_eq_true,
        List.length_cons, true_and]
      rw [same] at short
      exact fun hp => Nat.succ_le_succ (short hp.2)

theorem opens_append (h : '>' ∉ name) (y rest rest' : List Char) :
    opens name (y ++ '>' :: rest) = opens name (y ++ '>' :: rest') := by
  have hp : '>' ∉ '<' :: name := by simp [h]
  obtain ⟨same, short⟩ := startsWithName_append hp y rest rest'
  unfold opens
  rw [← same]
  cases hs : startsWithName ('<' :: name) (y ++ '>' :: rest) with
  | false => rfl
  | true =>
    have hl := short hs
    rw [List.length_cons] at hl
    rw [List.drop_append_of_le_length hl, List.drop_append_of_le_length hl]
    cases y.drop (name.length + 1) <;> rfl

theorem toLower_ne (h : c ≠ '<') : c.toLower ≠ '<' := by
  delta Char.toLower
  split
  · rename_i upper
    intro he
    have hv := congrArg (fun d : Char => d.val.toNat) he
    have hA : 'A'.val.toNat = 65 := rfl
    have hZ : 'Z'.val.toNat = 90 := rfl
    have hd : ('a'.val - 'A'.val).toNat = 32 := rfl
    have hl : '<'.val.toNat = 60 := rfl
    simp only [ge_iff_le, UInt32.le_iff_toNat_le, UInt32.toNat_add] at upper hv
    omega
  · exact h

theorem fromClosing_text (h : '<' ∉ text) (name cs : List Char) :
    fromClosing name (text ++ cs) = fromClosing name cs := by
  induction text with
  | nil => rfl
  | cons c text ih =>
    rw [List.mem_cons, not_or] at h
    have hne : startsWithName ('<' :: '/' :: name) (c :: (text ++ cs)) = false := by
      have hc : ('<' == c.toLower) = false :=
        beq_eq_false_iff_ne.mpr (Ne.symm (toLower_ne (Ne.symm h.1)))
      simp [startsWithName, List.isPrefixOf, hc]
    rw [List.cons_append, fromClosing, hne, if_neg (by simp), ih h.2]

theorem fromClosing_eq_none_of_append (h : fromClosing name (y ++ cs) = none) :
    fromClosing name cs = none := by
  induction y with
  | nil => exact h
  | cons c y ih =>
    rw [List.cons_append, fromClosing] at h
    split at h
    · cases h
    · exact ih h

/-- Where no closing tag is up to a `>`, none is there whatever follows. -/
theorem fromClosing_eq_none (hn : '>' ∉ name) (h : fromClosing name (y ++ '>' :: rest) = none)
    (h' : fromClosing name rest' = none) : fromClosing name (y ++ '>' :: rest') = none := by
  have hp : '>' ∉ '<' :: '/' :: name := by simp [hn]
  induction y with
  | nil =>
    have last : fromClosing name (['>'] ++ rest') = fromClosing name rest' :=
      fromClosing_text (by decide) name rest'
    rwa [List.nil_append, ← List.singleton_append, last]
  | cons c y ih =>
    have same := (startsWithName_append hp (c :: y) rest rest').1
    rw [List.cons_append, fromClosing] at h ⊢
    rw [List.cons_append, List.cons_append] at same
    rw [← same]
    split at h
    · cases h
    · rename_i hs
      rw [if_neg hs]
      exact ih h

/-- A text is found to start with a closing tag if it does. -/
theorem fromClosing_self :
    fromClosing name cs = some cs ↔ startsWithName ('<' :: '/' :: name) cs = true := by
  cases cs with
  | nil => simp [fromClosing, startsWithName]
  | cons c cs =>
    rw [fromClosing]
    split
    · simp_all
    · rename_i hs
      refine iff_of_false (fun h => ?_) hs
      exact absurd (length_fromClosing h) (by simp)

/-- A closing tag is found where it is whatever follows it. -/
theorem fromClosing_append (hn : '>' ∉ name)
    (h : fromClosing name (u ++ (y ++ '>' :: rest)) = some (y ++ '>' :: rest)) (rest' : List Char) :
    fromClosing name (u ++ (y ++ '>' :: rest')) = some (y ++ '>' :: rest') := by
  have hp : '>' ∉ '<' :: '/' :: name := by simp [hn]
  induction u with
  | nil =>
    have same := (startsWithName_append hp y rest rest').1
    rw [List.nil_append, fromClosing_self] at h ⊢
    rw [← same, h]
  | cons c u ih =>
    have same := (startsWithName_append hp (c :: u ++ y) rest rest').1
    simp only [List.cons_append, List.append_assoc] at h same ⊢
    rw [fromClosing] at h ⊢
    rw [← same]
    split at h
    · have hl := congrArg List.length (Option.some.inj h)
      simp at hl
      omega
    · rename_i hs
      rw [if_neg hs]
      exact ih h

/-- What is skipped ends with a `>`. It is skipped as well where something else follows it, unless
that has a closing tag and what follows here has none. -/
theorem exists_of_afterSkipped (h : afterSkipped cs = some rest) :
    ∃ y, cs = y ++ '>' :: rest ∧ ∀ rest',
      (∀ name ∈ rawElements, fromClosing name rest = none → fromClosing name rest' = none) →
      afterSkipped (y ++ '>' :: rest') = some rest' := by
  unfold afterSkipped at h
  split at h
  · cases h
  · rename_i behind hb
    obtain ⟨tag, rfl, ht⟩ := exists_of_afterTagEnd hb
    have raw : ∀ rest', rawElements.find? (opens · (tag ++ '>' :: rest')) =
        rawElements.find? (opens · (tag ++ '>' :: behind)) := fun rest' =>
      List.find?_congr fun name hn => opens_append (closing_mark_not_mem hn) tag rest' behind
    split at h
    · rename_i none
      cases h
      refine ⟨tag, rfl, fun rest' _ => ?_⟩
      rw [afterSkipped, afterTagEnd_append ht]
      simp only [raw, none]
    · rename_i name some
      have hn := List.mem_of_find?_eq_some some
      split at h
      · rename_i unclosed
        cases h
        refine ⟨tag, rfl, fun rest' closes => ?_⟩
        rw [afterSkipped, afterTagEnd_append ht]
        simp only [raw, some, closes name hn unclosed]
      · rename_i closing hc
        obtain ⟨u, hu⟩ := suffix_of_fromClosing hc
        obtain ⟨y, rfl, hy⟩ := exists_of_afterTagEnd h
        refine ⟨tag ++ '>' :: (u ++ y), by simp [← hu], fun rest' _ => ?_⟩
        have closed : fromClosing name (u ++ (y ++ '>' :: rest')) = .some (y ++ '>' :: rest') :=
          fromClosing_append (closing_mark_not_mem hn) (hu ▸ hc) rest'
        have he : (tag ++ '>' :: (u ++ y)) ++ '>' :: rest' =
            tag ++ '>' :: (u ++ (y ++ '>' :: rest')) := by simp
        rw [he, afterSkipped, afterTagEnd_append ht]
        simp only [raw, some, closed, afterTagEnd_append hy]

/-- The run of a text, which starts at byte `offset`; none if it is empty. -/
def run (offset : Nat) (text : List Char) : List Span :=
  if text.isEmpty then [] else [⟨offset, offset + byteSize text⟩]

theorem takeWhile_text (h : '<' ∉ text) (first : ∀ c ∈ cs.head?, c = '<') :
    (text ++ cs).takeWhile (· ≠ '<') = text ∧ (text ++ cs).dropWhile (· ≠ '<') = cs := by
  have inside : ∀ c ∈ text, decide (c ≠ '<') = true := by
    intro c hc
    exact decide_eq_true fun he => h (he ▸ hc)
  rw [List.takeWhile_append_of_pos inside, List.dropWhile_append_of_pos inside]
  cases cs with
  | nil => simp
  | cons c cs =>
    have hc : c = '<' := first c rfl
    simp [hc]

theorem runsFrom_last (offset : Nat) (h : '<' ∉ text) (first : ∀ c ∈ cs.head?, c = '<')
    (last : afterSkipped cs = none) : runsFrom offset (text ++ cs) = run offset text := by
  obtain ⟨take, drop⟩ := takeWhile_text h first
  rw [runsFrom, take, drop, last]
  rfl

theorem runsFrom_append (offset : Nat) (h : '<' ∉ text)
    (first : ∀ c ∈ (skipped ++ rest).head?, c = '<')
    (behind : afterSkipped (skipped ++ rest) = some rest) :
    runsFrom offset (text ++ (skipped ++ rest)) =
      run offset text ++ runsFrom (offset + byteSize text + byteSize skipped) rest := by
  obtain ⟨take, drop⟩ := takeWhile_text h first
  rw [runsFrom, take, drop]
  split
  · rename_i none
    rw [behind] at none
    cases none
  · rename_i rest' some
    rw [behind, Option.some.injEq] at some
    subst some
    rw [byteSize_append, Nat.add_sub_cancel]
    rfl

/-- A document ends with a text and what is skipped behind it, or it goes on behind that. -/
theorem text_cases (cs : List Char) :
    ∃ text tail, cs = text ++ tail ∧ '<' ∉ text ∧ (∀ c ∈ tail.head?, c = '<') ∧
      (afterSkipped tail = none ∨ ∃ rest, afterSkipped tail = some rest ∧
        rest.length < cs.length) := by
  refine ⟨cs.takeWhile (· ≠ '<'), cs.dropWhile (· ≠ '<'), by simp, ?_, ?_, ?_⟩
  · intro h
    simpa using List.mem_takeWhile_imp h
  · intro c hc
    have first := List.head?_dropWhile_not (fun c : Char => decide (c ≠ '<')) cs
    rw [Option.mem_def.mp hc] at first
    simpa using first
  · cases h : afterSkipped (cs.dropWhile (· ≠ '<')) with
    | none => exact Or.inl rfl
    | some rest =>
      refine Or.inr ⟨rest, rfl, ?_⟩
      have := length_afterSkipped h
      have := (List.dropWhile_sublist (fun c : Char => decide (c ≠ '<')) (l := cs)).length_le
      omega

end Considerate.Markup.Html
