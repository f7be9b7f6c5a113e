import Considerate.Session.Cells

namespace Considerate.Cells

variable (c : Cells)

theorem ofDocument_cases (u : Url) :
    (c.current.get? u = some (c.ofDocument u).2 ∧ (c.ofDocument u).1 = c) ∨
    (c.current.get? u = none ∧ (c.ofDocument u).2 = c.all.length ∧
      (c.ofDocument u).1 = ⟨c.current.set u c.all.length, c.all ++ [({} : Cell)]⟩) := by
  unfold ofDocument
  cases c.current.get? u with
  | some n => exact Or.inl ⟨rfl, rfl⟩
  | none => exact Or.inr ⟨rfl, rfl, rfl⟩

theorem ofDocument_self (u : Url) :
    (c.ofDocument u).1.current.get? u = some (c.ofDocument u).2 := by
  rcases c.ofDocument_cases u with ⟨hc, hd⟩ | ⟨_, hn, hd⟩
  · rw [hd, hc]
  · rw [hd, hn]
    exact Keyed.get?_set_self ..

/-- A document keeps its cell when another one gets its own. -/
theorem ofDocument_keeps (u : Url) {v : Url} {n : Nat} (h : c.current.get? v = some n) :
    (c.ofDocument u).1.current.get? v = some n := by
  rcases c.ofDocument_cases u with ⟨_, hd⟩ | ⟨hc, _, hd⟩
  · rw [hd, h]
  · rw [hd]
    refine (Keyed.get?_set_ne _ ?_ _).trans h
    rintro rfl
    rw [hc] at h
    cases h

theorem length_ofDocument (u : Url) : c.all.length ≤ (c.ofDocument u).1.all.length := by
  rcases c.ofDocument_cases u with ⟨_, hd⟩ | ⟨_, _, hd⟩ <;> simp [hd]

/-- A new cell is as empty as one that is not there. -/
theorem get_ofDocument (u : Url) (n : Nat) : (c.ofDocument u).1.get n = c.get n := by
  rcases c.ofDocument_cases u with ⟨_, hd⟩ | ⟨_, _, hd⟩
  · rw [hd]
  · rw [hd]
    unfold get
    by_cases hn : n < c.all.length
    · simp [List.getElem?_append_left, hn]
    · rw [List.getElem?_append_right (Nat.le_of_not_lt hn),
        List.getElem?_eq_none (Nat.le_of_not_lt hn)]
      cases n - c.all.length <;> simp

theorem get_set_ne {m n : Nat} (h : m ≠ n) (cell : Cell) : (c.set n cell).get m = c.get m := by
  simp [get, set, List.getElem?_set_ne (Ne.symm h)]

theorem get_set_self {n : Nat} (h : n < c.all.length) (cell : Cell) : (c.set n cell).get n = cell := by
  simp [get, set, h]

theorem get_set_cases (m n : Nat) (cell : Cell) :
    (c.set n cell).get m = c.get m ∨ m = n ∧ (c.set n cell).get m = cell := by
  by_cases h : m = n
  · subst h
    by_cases hm : m < c.all.length
    · exact Or.inr ⟨rfl, c.get_set_self hm cell⟩
    · exact Or.inl (by simp [get, set, hm])
  · exact Or.inl (c.get_set_ne h cell)

@[simp] theorem length_set (n : Nat) (cell : Cell) :
    (c.set n cell).all.length = c.all.length :=
  List.length_set

theorem forget_keeps {u v : Url} (h : v ≠ u) : (c.forget (some u)).current.get? v =
    c.current.get? v :=
  Keyed.get?_erase_ne _ h

theorem current_of_forget {u : Option Url} {v : Url} {n : Nat}
    (h : (c.forget u).current.get? v = some n) : c.current.get? v = some n ∧ u ≠ none ∧
      u ≠ some v := by
  cases u with
  | none => cases h
  | some u =>
    by_cases hv : v = u
    · subst hv
      rw [forget, Keyed.get?_erase_self] at h
      cases h
    · rw [c.forget_keeps hv] at h
      exact ⟨h, by simp, by simp [Ne.symm hv]⟩

end Considerate.Cells
