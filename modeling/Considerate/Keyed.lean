namespace Considerate

structure Keyed (κ α : Type) where
  entries : List (κ × α) := []
  deriving Repr

namespace Keyed

variable {κ α β : Type} [DecidableEq κ]

def empty : Keyed κ α := {}

/-- Looks up a key in pairs. -/
def find (k : κ) : List (κ × α) → Option α
  | [] => none
  | (l, a) :: es => if l = k then some a else find k es

/-- Sets a key in pairs. -/
def put (k : κ) (a : α) : List (κ × α) → List (κ × α)
  | [] => [(k, a)]
  | (l, b) :: es => if l = k then (k, a) :: es else (l, b) :: put k a es

def get? (t : Keyed κ α) (k : κ) : Option α := find k t.entries

def contains (t : Keyed κ α) (k : κ) : Bool := (t.get? k).isSome

def set (t : Keyed κ α) (k : κ) (a : α) : Keyed κ α := ⟨put k a t.entries⟩

def erase (t : Keyed κ α) (k : κ) : Keyed κ α := ⟨t.entries.filter fun e => e.1 ≠ k⟩

def keys (t : Keyed κ α) : List κ := t.entries.map Prod.fst

theorem find_put_self (k : κ) (a : α) (es : List (κ × α)) : find k (put k a es) = some a := by
  induction es with
  | nil => simp [put, find]
  | cons e es ih =>
    by_cases h : e.1 = k
    · simp [put, find, h]
    · simp [put, find, h, ih]

theorem find_put_ne {k l : κ} (h : l ≠ k) (a : α) (es : List (κ × α)) :
    find l (put k a es) = find l es := by
  induction es with
  | nil => simp [put, find, Ne.symm h]
  | cons e es ih =>
    by_cases hk : e.1 = k
    · have : ¬ e.1 = l := fun hl => h (hl.symm.trans hk)
      simp [put, find, hk, Ne.symm h]
    · by_cases hl : e.1 = l <;> simp [put, find, hk, hl, ih, h]

theorem mem_of_find {k : κ} {a : α} {es : List (κ × α)} (h : find k es = some a) :
    (k, a) ∈ es := by
  induction es with
  | nil => cases h
  | cons e es ih =>
    by_cases hk : e.1 = k
    · simp only [find, hk, if_true, Option.some.injEq] at h
      simp [← h, ← hk]
    · simp only [find, hk, if_false] at h
      exact List.mem_cons_of_mem _ (ih h)

/-- Among the pairs with some of the keys, a key is found as before or not at all. -/
theorem find_filter (p : κ → Bool) (k : κ) (es : List (κ × α)) :
    find k (es.filter fun e => p e.1) = if p k then find k es else none := by
  induction es with
  | nil => simp [find]
  | cons e es ih =>
    by_cases h : e.1 = k
    · subst h
      cases hp : p e.1 <;> simp [hp, find, ih]
    · cases hp : p e.1 <;> simp [hp, find, h, ih]

theorem find_filter_self (k : κ) (es : List (κ × α)) :
    find k (es.filter fun e => e.1 ≠ k) = none :=
  (find_filter (fun l => l ≠ k) k es).trans (by simp)

theorem find_filter_ne {k l : κ} (h : l ≠ k) (es : List (κ × α)) :
    find l (es.filter fun e => e.1 ≠ k) = find l es :=
  (find_filter (fun l => l ≠ k) l es).trans (by simp [h])

@[simp] theorem get?_empty (k : κ) : (empty : Keyed κ α).get? k = none := rfl

theorem get?_of_no_entries {t : Keyed κ α} (h : t.entries.length = 0) (k : κ) :
    t.get? k = none := by
  rw [get?, List.length_eq_zero_iff.mp h]
  rfl

@[simp] theorem get?_set_self (t : Keyed κ α) (k : κ) (a : α) : (t.set k a).get? k = some a :=
  find_put_self k a t.entries

theorem get?_set_ne (t : Keyed κ α) {k l : κ} (h : l ≠ k) (a : α) :
    (t.set k a).get? l = t.get? l :=
  find_put_ne h a t.entries

@[simp] theorem get?_erase_self (t : Keyed κ α) (k : κ) : (t.erase k).get? k = none :=
  find_filter_self k t.entries

theorem get?_erase_ne (t : Keyed κ α) {k l : κ} (h : l ≠ k) : (t.erase k).get? l = t.get? l :=
  find_filter_ne h t.entries

end Keyed

end Considerate
