import Considerate.Turns
import Mathlib.Data.List.Nodup

namespace Considerate.Turns

def line (t : Turns) : List Nat := t.holder.toList ++ t.waiting

/-- Nobody waits for a turn that is free, and nobody is in the line twice. -/
structure Orderly (t : Turns) : Prop where
  idle : t.holder = none → t.waiting = []
  once : t.line.Nodup

theorem Orderly.free : Orderly {} := ⟨fun _ => rfl, List.nodup_nil⟩

variable {t : Turns} {id k : Nat}

theorem isHeldBy_iff : t.isHeldBy id = true ↔ t.holder = some id := by
  simp [isHeldBy]

theorem mem_line : k ∈ t.line ↔ t.holder = some k ∨ k ∈ t.waiting := by
  simp [line]

theorem Orderly.holder_eq (h : t.Orderly) : t.holder = t.line.head? := by
  cases ht : t.holder with
  | none => simp [line, ht, h.idle ht]
  | some k => simp [line, ht]

theorem Orderly.not_waiting (h : t.Orderly) (hk : t.holder = some k) : k ∉ t.waiting := by
  have hn := h.once
  rw [line, hk] at hn
  exact (List.nodup_cons.mp hn).1

theorem Orderly.line_request (h : t.Orderly) (id : Nat) :
    (t.request id).line = if id ∈ t.line then t.line else t.line ++ [id] := by
  cases ht : t.holder with
  | none =>
    have hw := h.idle ht
    simp [request, line, ht, hw]
  | some k =>
    by_cases hk : k = id
    · simp [request, line, isHeldBy, ht, hk]
    · by_cases hm : id ∈ t.waiting
      · simp [request, line, isHeldBy, ht, hm]
      · simp [request, line, isHeldBy, ht, hk, hm, Ne.symm hk]

theorem Orderly.request (h : t.Orderly) (id : Nat) : (t.request id).Orderly := by
  constructor
  · intro hn
    cases ht : t.holder with
    | none => simp [Turns.request, ht] at hn
    | some k =>
      simp only [Turns.request, ht] at hn
      split at hn <;> simp [ht] at hn
  · rw [h.line_request]
    split
    · exact h.once
    · rename_i hm
      exact List.nodup_append.mpr ⟨h.once, List.nodup_singleton id, by
        intro a ha b hb
        rw [List.mem_singleton] at hb
        rintro rfl
        exact hm (hb ▸ ha)⟩

/-- The turn can be had by who is first in the line, or when nobody is in it. -/
theorem isHeldBy_request :
    (t.request id).isHeldBy id = true ↔ t.holder = none ∨ t.holder = some id := by
  rw [isHeldBy_iff]
  cases ht : t.holder with
  | none => simp [Turns.request, ht]
  | some k =>
    simp only [Turns.request, ht]
    split <;> simp [ht]

theorem request_of_holder (h : t.holder = some id) : t.request id = t := by
  simp [request, isHeldBy, h]

/-- Who does not get the turn leaves it with the holder. -/
theorem holder_of_busy (busy : (t.request id).isHeldBy id = false) :
    (t.request id).holder = t.holder ∧ t.holder ≠ none := by
  cases ht : t.holder with
  | none =>
    rw [request_isHeldBy ht] at busy
    cases busy
  | some k =>
    simp only [request, ht]
    split <;> simp [ht]

theorem line_of_holder (h : t.holder = some id) : t.line = id :: t.waiting := by
  simp [line, h]

theorem holder_of_turn (turn : (t.request id).isHeldBy id = true) (h : t.Orderly)
    (hl : t.line ≠ []) : t.holder = some id := by
  rcases isHeldBy_request.mp turn with hn | hk
  · simp [line, hn, h.idle hn] at hl
  · exact hk

theorem line_pass : t.pass.line = t.waiting := by
  cases ht : t.waiting <;> simp [pass, line, ht]

theorem Orderly.pass (h : t.Orderly) : t.pass.Orderly := by
  constructor
  · intro hn
    rw [holder_pass] at hn
    rw [List.head?_eq_none_iff] at hn
    simp [Turns.pass, hn]
  · rw [line_pass]
    exact (List.nodup_append.mp h.once).2.1

theorem Orderly.line_leave (h : t.Orderly) (id : Nat) :
    (t.leave id).line = t.line.filter (· ≠ id) := by
  by_cases hk : t.holder = some id
  · have hn := h.not_waiting hk
    have hf : t.waiting.filter (· ≠ id) = t.waiting := by
      rw [List.filter_eq_self]
      intro k hm
      simp only [decide_eq_true_eq]
      rintro rfl
      exact hn hm
    rw [leave, if_pos (isHeldBy_iff.mpr hk), line_pass, line, hk]
    simpa using hf.symm
  · rw [leave, if_neg (fun he => hk (isHeldBy_iff.mp he))]
    cases ht : t.holder with
    | none => simp [line, ht]
    | some k =>
      have hne : k ≠ id := fun he => hk (he ▸ ht)
      simp [line, ht, hne]

theorem Orderly.leave (h : t.Orderly) (id : Nat) : (t.leave id).Orderly := by
  by_cases hk : t.isHeldBy id = true
  · rw [Turns.leave, if_pos hk]
    exact h.pass
  · refine ⟨?_, h.line_leave id ▸ h.once.filter _⟩
    rw [Turns.leave, if_neg hk]
    intro hn
    simp [h.idle hn]

/-- Who asks for the turn comes behind those in the line. -/
theorem Orderly.line_request_behind (h : t.Orderly) (id : Nat) {xs ys : List Nat}
    (hl : t.line = xs ++ k :: ys) : ∃ zs, (t.request id).line = xs ++ k :: zs := by
  rw [h.line_request]
  split
  · exact ⟨ys, hl⟩
  · exact ⟨ys ++ [id], by simp [hl]⟩

/-- Who is in the line when the holder passes the turn on is the holder, or stands behind it. -/
theorem line_pass_behind (h : t.holder = some id) {xs ys : List Nat}
    (hl : t.line = xs ++ k :: ys) :
    k = id ∨ ∃ zs, xs = id :: zs ∧ t.pass.line = zs ++ k :: ys := by
  rw [line_pass]
  rw [line_of_holder h] at hl
  cases xs with
  | nil =>
    injection hl with hk
    exact Or.inl hk.symm
  | cons x zs =>
    injection hl with hx hz
    exact Or.inr ⟨zs, by rw [hx], hz⟩

end Considerate.Turns
