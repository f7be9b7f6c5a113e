import Considerate.Keyed
import Mathlib.Data.List.Nodup
import Mathlib.Data.List.Perm.Subperm

namespace Considerate.Keyed

def Distinct {κ α : Type} (t : Keyed κ α) : Prop := t.keys.Nodup

theorem Distinct.empty {κ α : Type} : Distinct ({} : Keyed κ α) := List.nodup_nil

def total {κ α : Type} (f : κ → α → Nat) : List (κ × α) → Nat
  | [] => 0
  | (k, a) :: es => f k a + total f es

def sum {κ α : Type} (t : Keyed κ α) (f : κ → α → Nat) : Nat := total f t.entries

variable {κ α : Type} [DecidableEq κ] {t : Keyed κ α} {k l : κ} {a b : α} {f g : κ → α → Nat}

theorem put_put (k : κ) (a b : α) (es : List (κ × α)) : put k a (put k b es) = put k a es := by
  induction es with
  | nil => simp [put]
  | cons e es ih => by_cases h : e.1 = k <;> simp [put, h, ih]

theorem filter_put (k : κ) (a : α) (es : List (κ × α)) :
    (put k a es).filter (fun e => e.1 ≠ k) = es.filter fun e => e.1 ≠ k := by
  induction es with
  | nil => simp [put]
  | cons e es ih => by_cases h : e.1 = k <;> simp_all [put]

theorem filter_of_find {k : κ} {es : List (κ × α)} (h : find k es = none) :
    (es.filter fun e => e.1 ≠ k) = es := by
  induction es with
  | nil => rfl
  | cons e es ih =>
    by_cases hk : e.1 = k
    · simp [find, hk] at h
    · simp only [find, hk, if_false] at h
      rw [List.filter_cons_of_pos (by simp [hk]), ih h]

theorem erase_of_absent (absent : t.get? k = none) : t.erase k = t :=
  congrArg mk (filter_of_find absent)

theorem erase_set (t : Keyed κ α) (k : κ) (a : α) : (t.set k a).erase k = t.erase k :=
  congrArg mk (filter_put k a t.entries)

theorem keys_erase (t : Keyed κ α) (k : κ) : (t.erase k).keys = t.keys.filter (· ≠ k) := by
  rw [keys, keys, erase, List.filter_map]
  rfl

theorem Distinct.erase (h : t.Distinct) (k : κ) : (t.erase k).Distinct := by
  rw [Distinct, keys_erase]
  exact h.filter _

theorem mem_keys_put {es : List (κ × α)} :
    l ∈ (put k a es).map Prod.fst ↔ l = k ∨ l ∈ es.map Prod.fst := by
  induction es with
  | nil => simp [put]
  | cons e es ih =>
    by_cases h : e.1 = k
    · simp [put, h]
    · simp only [put, h, if_false, List.map_cons, List.mem_cons, ih]
      exact or_left_comm

theorem Distinct.set (h : t.Distinct) (k : κ) (a : α) : (t.set k a).Distinct := by
  obtain ⟨es⟩ := t
  unfold Distinct keys Keyed.set at *
  induction es with
  | nil => simp [put]
  | cons e es ih =>
    obtain ⟨new, rest⟩ := List.nodup_cons.mp h
    by_cases hk : e.1 = k
    · subst hk
      simpa [put] using ⟨by simpa using new, rest⟩
    · simp only [put, hk, if_false, List.map_cons, List.nodup_cons, mem_keys_put]
      refine ⟨?_, ih rest⟩
      rintro (he | hm)
      · exact he
      · exact new hm

/-- Each entry is what is found for its key. -/
theorem Distinct.get? (h : t.Distinct) (he : (k, a) ∈ t.entries) : t.get? k = some a := by
  obtain ⟨es⟩ := t
  unfold Distinct keys Keyed.get? at *
  induction es with
  | nil => cases he
  | cons e es ih =>
    obtain ⟨new, rest⟩ := List.nodup_cons.mp h
    rcases List.mem_cons.mp he with rfl | he
    · simp [find]
    · have hk : e.1 ≠ k := by
        rintro rfl
        exact new (List.mem_map.mpr ⟨_, he, rfl⟩)
      simp only [find, hk, if_false]
      exact ih rest he

theorem filter_of_new {es : List (κ × α)} (new : k ∉ es.map Prod.fst) :
    (es.filter fun e => e.1 ≠ k) = es := by
  refine List.filter_eq_self.mpr fun e he => ?_
  rw [decide_eq_true_eq]
  rintro rfl
  exact new (List.mem_map_of_mem he)

theorem sum_erase_add (h : t.Distinct) (found : t.get? k = some a) :
    (t.erase k).sum f + f k a = t.sum f := by
  obtain ⟨es⟩ := t
  unfold Distinct keys Keyed.get? Keyed.erase sum at *
  induction es with
  | nil => cases found
  | cons e es ih =>
    obtain ⟨new, rest⟩ := List.nodup_cons.mp h
    by_cases hk : e.1 = k
    · subst hk
      simp only [find, if_true, Option.some.injEq] at found
      subst found
      rw [List.filter_cons_of_neg (by simp), filter_of_new new]
      exact Nat.add_comm ..
    · simp only [find, hk, if_false] at found
      have := ih rest found
      rw [List.filter_cons_of_pos (by simp [hk])]
      simp only [total] at *
      omega

theorem sum_set (h : t.Distinct) : (t.set k a).sum f = (t.erase k).sum f + f k a := by
  obtain ⟨es⟩ := t
  unfold Distinct keys Keyed.set Keyed.erase sum at *
  induction es with
  | nil => simp [put, total]
  | cons e es ih =>
    obtain ⟨new, rest⟩ := List.nodup_cons.mp h
    by_cases hk : e.1 = k
    · subst hk
      rw [List.filter_cons_of_neg (by simp), filter_of_new new]
      simp [put, total, Nat.add_comm]
    · rw [List.filter_cons_of_pos (by simp [hk])]
      simp only [put, hk, if_false, total, ih rest]
      omega

theorem sum_add_length_le (h : t.Distinct) {ks : List κ} (once : ks.Nodup)
    (less : ∀ l ∈ ks, ∃ a, t.get? l = some a ∧ f l a + 1 ≤ g l a)
    (others : ∀ l a, t.get? l = some a → f l a ≤ g l a) :
    t.sum f + ks.length ≤ t.sum g := by
  have counted : ks.length ≤ (t.keys.filter (· ∈ ks)).length := by
    refine (List.subperm_of_subset once ?_).length_le
    intro l hl
    obtain ⟨a, ha, _⟩ := less l hl
    exact List.mem_filter.mpr ⟨List.mem_map.mpr ⟨_, mem_of_find ha, rfl⟩, by simpa using hl⟩
  have sums : ∀ es : List (κ × α), (∀ e ∈ es, e ∈ t.entries) →
      total f es + ((es.map Prod.fst).filter (· ∈ ks)).length ≤ total g es := by
    intro es
    induction es with
    | nil => simp [total]
    | cons e es ih =>
      intro there
      have he := h.get? (there e (by simp))
      have := ih fun d hd => there d (List.mem_cons_of_mem _ hd)
      simp only [List.map_cons, total, List.filter_cons]
      by_cases hl : e.1 ∈ ks
      · obtain ⟨a, ha, hlt⟩ := less e.1 hl
        rw [he, Option.some.injEq] at ha
        subst ha
        simp only [hl, decide_true, if_true, List.length_cons]
        omega
      · have := others e.1 e.2 he
        simp only [hl, decide_false, Bool.false_eq_true, if_false]
        omega
  have := sums t.entries fun _ he => he
  exact Nat.le_trans (Nat.add_le_add_left counted _) this

theorem sum_le_length_mul (h : t.Distinct) {n : Nat} (few : ∀ l a, t.get? l = some a → f l a ≤ n) :
    t.sum f ≤ n * t.entries.length := by
  have sums : ∀ es : List (κ × α), (∀ e ∈ es, e ∈ t.entries) → total f es ≤ n * es.length := by
    intro es
    induction es with
    | nil => simp [total]
    | cons e es ih =>
      intro there
      have := few _ _ (h.get? (there e (by simp)))
      have := ih fun d hd => there d (List.mem_cons_of_mem _ hd)
      simp only [total, List.length_cons, Nat.mul_succ]
      omega
  exact sums t.entries fun _ he => he

end Considerate.Keyed
