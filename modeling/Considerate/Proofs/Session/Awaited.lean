import Considerate.Proofs.Session.Fetched
import Considerate.Proofs.Turns

namespace Considerate

namespace Turns

variable {t : Turns} {id k : Nat}

theorem mem_waiting_request (h : k ∈ (t.request id).waiting) : k ∈ t.waiting ∨ k = id := by
  unfold request at h
  split at h
  · exact Or.inl h
  · split at h
    · exact Or.inl h
    · simpa using h

theorem waiting_of_turn (turn : (t.request id).isHeldBy id = true) :
    (t.request id).waiting = t.waiting := by
  rcases isHeldBy_request.mp turn with hn | hh
  · simp [request, hn]
  · rw [request_of_holder hh]

theorem mem_waiting_leave (h : k ∈ (t.leave id).waiting) : k ∈ t.waiting := by
  unfold leave at h
  split at h
  · unfold pass at h
    split at h
    · cases h
    · rename_i ids hw
      rw [hw]
      exact List.mem_cons_of_mem _ h
  · exact (List.mem_filter.mp h).1

theorem Orderly.not_mem_leave (h : t.Orderly) (id : Nat) : id ∉ (t.leave id).waiting := by
  intro hw
  have hl : id ∈ (t.leave id).line := mem_line.mpr (Or.inr hw)
  rw [h.line_leave] at hl
  simp at hl

end Turns

namespace Session

variable {s t : Session} {id k n : Nat} {st next : Stage} {a : Action} {es : List Effect}

/-- The lines for the cells are in order, and the tasks that wait in them are at the cells. -/
structure Awaited (s : Session) : Prop where
  orderly : ∀ n, (s.cells.get n).turns.Orderly
  known : ∀ n, ∀ k ∈ (s.cells.get n).turns.waiting,
    ∃ u reader, s.tasks.get? k = some (.cell u n reader)

theorem Awaited.empty : Awaited {} where
  orderly _ := .free
  known _ _ hw := by cases hw

theorem Awaited.not_mem (h : Awaited s) (found : s.tasks.get? id = some st)
    (ready : s.canGoOn id st = true) (n : Nat) : id ∉ (s.cells.get n).turns.waiting := by
  intro hw
  obtain ⟨u, reader, there⟩ := h.known n id hw
  rw [found, Option.some.injEq] at there
  subst there
  simp [canGoOn, hw] at ready

/-- A task goes to another stage, while the others wait for their cells or do not. -/
theorem Awaited.put (h : Awaited s) (ht : t.tasks = s.tasks)
    (orderly : ∀ n, (t.cells.get n).turns.Orderly)
    (others : ∀ n, ∀ k ∈ (t.cells.get n).turns.waiting, k ≠ id →
      k ∈ (s.cells.get n).turns.waiting)
    (self : ∀ n, id ∈ (t.cells.get n).turns.waiting → ∃ u reader, next = .cell u n reader) :
    Awaited (t.put id next) := by
  constructor
  · simpa only [cells_put] using orderly
  · intro n k hw
    rw [cells_put] at hw
    by_cases hk : k = id
    · subst hk
      obtain ⟨u, reader, rfl⟩ := self n hw
      exact ⟨u, reader, Keyed.get?_set_self ..⟩
    · rw [tasks_put_ne _ _ hk, ht]
      exact h.known n k (others n k hw hk)

theorem Awaited.move (h : Awaited s) (found : s.tasks.get? id = some st)
    (ready : s.canGoOn id st = true) (moves : Moves s id st t next) : Awaited (t.put id next) := by
  have ht := moves.tasks
  have absent := h.not_mem found ready
  have same : (∀ n, t.cells.get n = s.cells.get n) → Awaited (t.put id next) := by
    intro hc
    refine h.put ht (fun n => hc n ▸ h.orderly n) (fun n k hk _ => hc n ▸ hk) fun n hw => ?_
    exact (absent n (hc n ▸ hw)).elim
  cases moves.seeks with
  | nothing he | filled _ _ _ _ _ _ he => exact same fun n => by rw [he]
  | forget v here forgotten => exact same fun n => by rw [forgotten]; rfl
  | want v reader wanted => exact same fun n => by rw [wanted, Cells.get_ofDocument]
  | queue v m reader here requested goal =>
    have hc := fun n => s.cells.get_set_cases n m
      { s.cells.get m with turns := (s.cells.get m).turns.request id }
    refine h.put ht (fun n => ?_) (fun n k hw hk => ?_) fun n hw => ?_
    · rcases hc n with he | ⟨-, he⟩ <;> rw [requested, requestCell, he]
      · exact h.orderly n
      · exact (h.orderly m).request id
    · rcases hc n with he | ⟨rfl, he⟩ <;> rw [requested, requestCell, he] at hw
      · exact hw
      · exact (Turns.mem_waiting_request hw).resolve_right hk
    · rcases hc n with he | ⟨rfl, he⟩ <;> rw [requested, requestCell, he] at hw
      · exact (absent n hw).elim
      · exact ⟨v, reader, goal.trans here⟩
  | ask v m reader here requested asks empty turn =>
    have hw : ∀ n, (t.cells.get n).turns.waiting = (s.cells.get n).turns.waiting := by
      intro n
      rcases s.cells.get_set_cases n m
        { s.cells.get m with turns := (s.cells.get m).turns.request id } with he | ⟨rfl, he⟩ <;>
        rw [requested, requestCell, he]
      exact Turns.waiting_of_turn turn
    refine h.put ht (fun n => ?_) (fun n k hk _ => hw n ▸ hk) fun n hm => ?_
    · rcases s.cells.get_set_cases n m
        { s.cells.get m with turns := (s.cells.get m).turns.request id } with he | ⟨-, he⟩ <;>
        rw [requested, requestCell, he]
      · exact h.orderly n
      · exact (h.orderly m).request id
    · exact (absent n (hw n ▸ hm)).elim
  | fill m reader x here fills =>
    have hc := fun n => s.cells.get_set_cases n m
      { value := some (s.settingsFrom x.configuration) }
    refine h.put ht (fun n => ?_) (fun n k hw _ => ?_) fun n hw => ?_
    · rcases hc n with he | ⟨-, he⟩ <;> rw [fills, Cells.fill, he]
      · exact h.orderly n
      · exact .free
    · rcases hc n with he | ⟨-, he⟩ <;> rw [fills, Cells.fill, he] at hw
      · exact hw
      · cases hw
    · rcases hc n with he | ⟨-, he⟩ <;> rw [fills, Cells.fill, he] at hw
      · exact (absent n hw).elim
      · cases hw

/-- A task that does not wait for a cell goes to another stage from outside. -/
theorem Awaited.shift (h : Awaited s) (found : s.tasks.get? id = some st)
    (apart : ∀ u n reader, st ≠ .cell u n reader) (next : Stage) : Awaited (s.put id next) := by
  refine h.put rfl h.orderly (fun n k hk _ => hk) fun n hw => ?_
  obtain ⟨u, reader, there⟩ := h.known n id hw
  rw [found, Option.some.injEq] at there
  exact (apart u n reader there).elim

theorem turns_get_letGo (s : Session) (id : Nat) (st : Stage) (n : Nat) :
    ((s.letGo id st).cells.get n).turns =
      if st.cell? = some n then (s.cells.get n).turns.leave id else (s.cells.get n).turns := by
  rw [cells_letGo_eq]
  cases st.cell? with
  | none => simp
  | some m =>
    rw [Option.elim_some]
    by_cases hm : n = m
    · subst hm
      rw [if_pos rfl]
      by_cases hn : n < s.cells.all.length
      · rw [Cells.get_set_self _ hn]
      · -- There is no such cell, and nobody is in line for it.
        have hl := Nat.le_of_not_lt hn
        simp [Cells.get, Cells.set, List.set_eq_of_length_le hl, List.getElem?_eq_none hl,
          Turns.leave, Turns.isHeldBy]
    · rw [Cells.get_set_ne _ hm, if_neg (by simp [Ne.symm hm])]

theorem Awaited.step (h : Awaited s) (hs : Step s a t es) : Awaited t := by
  cases hs with
  | known | rest | unheard | idle | gone | openDocument => exact ⟨h.orderly, h.known⟩
  | invalidate u => cases u <;> exact ⟨h.orderly, h.known⟩
  | call id job new =>
    refine h.put rfl h.orderly (fun n k hk _ => hk) fun n hw => ?_
    obtain ⟨u, reader, there⟩ := h.known n id hw
    rw [contains_eq_false.mp new] at there
    cases there
  | advance id st found ready t next moves => exact h.move found ready moves
  | answer id x c plan found => exact h.shift found (by simp) _
  | linted id p settings found => exact h.shift found (by simp) _
  | drop id st found =>
    constructor
    · intro n
      rw [turns_get_letGo]
      split
      · exact (h.orderly n).leave id
      · exact h.orderly n
    · intro n k hw
      rw [turns_get_letGo] at hw
      have waits : k ∈ (s.cells.get n).turns.waiting := by
        split at hw
        · exact Turns.mem_waiting_leave hw
        · exact hw
      obtain ⟨u, reader, there⟩ := h.known n k waits
      have other : k ≠ id := by
        rintro rfl
        rw [found, Option.some.injEq] at there
        subst there
        exact (h.orderly n).not_mem_leave k (by simpa [Stage.cell?] using hw)
      exact ⟨u, reader, by rw [tasks_letGo, Keyed.get?_erase_ne _ other, there]⟩
  | changeText u text version =>
    rcases changeText_cases s u text version with he | ⟨d, he⟩ <;> rw [he] <;>
      exact ⟨h.orderly, h.known⟩
  | reload files root =>
    rw [reload_eq]
    exact ⟨h.orderly, h.known⟩

end Session

end Considerate
