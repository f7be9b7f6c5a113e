import Considerate.Proofs.Session.Fetched
import Considerate.Proofs.Turns

namespace Considerate

/-- The cell for which a task has put a question to the editor. -/
def Stage.asks? : Stage → Option Nat
  | .calling _ (.configured n _) | .back (.configured n _) _ => some n
  | _ => none

namespace Session

variable {s t : Session} {id k n : Nat} {st next : Stage} {a : Action} {es : List Effect}

theorem cell?_of_asks? (h : st.asks? = some n) : st.cell? = some n := by
  unfold Stage.asks? at h
  split at h <;> first | exact h | cases h

theorem asks?_of_cell? (h : st.cell? = none) : st.asks? = none := by
  cases ha : st.asks? with
  | none => rfl
  | some n => rw [cell?_of_asks? ha] at h; cases h

theorem asks?_back (c : Call) (plan : Return) (x : Answer) :
    (Stage.back plan x).asks? = (Stage.calling c plan).asks? := by
  cases plan <;> rfl

def IsAsking (s : Session) (k n : Nat) : Prop :=
  ∃ st, s.tasks.get? k = some st ∧ st.asks? = some n

theorem isAsking_iff (found : s.tasks.get? k = some st) : s.IsAsking k n ↔ st.asks? = some n := by
  simp [IsAsking, found]

/-- The holder of the turn in a cell is the one task that asks the editor for it. -/
structure SoleAsker (s : Session) : Prop where
  orderly : ∀ n, (s.cells.get n).turns.Orderly
  holder : ∀ k n, (s.cells.get n).turns.holder = some k ↔ s.IsAsking k n
  empty : ∀ k n, s.IsAsking k n → (s.cells.get n).value = none

theorem SoleAsker.congr (h : SoleAsker s) (hc : ∀ n, t.cells.get n = s.cells.get n)
    (ht : ∀ k n, t.IsAsking k n ↔ s.IsAsking k n) : SoleAsker t := by
  refine ⟨?_, ?_, ?_⟩
  · intro n
    rw [hc]
    exact h.orderly n
  · intro k n
    rw [hc, ht]
    exact h.holder k n
  · intro k n hk
    rw [hc]
    exact h.empty k n ((ht k n).mp hk)

/-- A task whose question is as before leaves everything as it was in the cells. -/
theorem SoleAsker.put (h : SoleAsker s) (found : s.tasks.get? id = some st)
    (ht : t.tasks = s.tasks) (hc : ∀ n, t.cells.get n = s.cells.get n)
    (same : next.asks? = st.asks?) : SoleAsker (t.put id next) := by
  apply h.congr
  · intro n
    rw [cells_put, hc]
  · exact exists_put_same (fun _ => rfl) ht found same

theorem SoleAsker.put_cell (h : SoleAsker s) (found : s.tasks.get? id = some st)
    (ht : t.tasks = s.tasks) (hn : n < s.cells.all.length) {cell : Cell}
    (hc : t.cells = s.cells.set n cell) (orderly : cell.turns.Orderly)
    (elsewhere : ∀ m, m ≠ n → (next.asks? = some m ↔ st.asks? = some m))
    (holder : ∀ k, cell.turns.holder = some k ↔ (t.put id next).IsAsking k n)
    (empty : ∀ k, (t.put id next).IsAsking k n → cell.value = none) :
    SoleAsker (t.put id next) := by
  have self : (t.put id next).cells.get n = cell := by
    rw [cells_put, hc, s.cells.get_set_self hn]
  have other : ∀ m, m ≠ n → (t.put id next).cells.get m = s.cells.get m := by
    intro m hm
    rw [cells_put, hc, s.cells.get_set_ne hm]
  have asking : ∀ k m, m ≠ n → ((t.put id next).IsAsking k m ↔ s.IsAsking k m) := by
    intro k m hm
    rw [IsAsking, exists_put (fun _ => rfl) ht, elsewhere m hm]
    by_cases hk : k = id
    · subst hk
      simp [isAsking_iff found]
    · simp [IsAsking, hk]
  refine ⟨?_, ?_, ?_⟩
  · intro m
    by_cases hm : m = n
    · subst hm
      rwa [self]
    · rw [other m hm]
      exact h.orderly m
  · intro k m
    by_cases hm : m = n
    · subst hm
      rw [self]
      exact holder k
    · rw [other m hm, asking k m hm]
      exact h.holder k m
  · intro k m hk
    by_cases hm : m = n
    · subst hm
      rw [self]
      exact empty k hk
    · rw [other m hm]
      exact h.empty k m ((asking k m hm).mp hk)

theorem SoleAsker.free_of_turn (h : SoleAsker s) (found : s.tasks.get? id = some st)
    (quiet : st.asks? = none) (turn : ((s.cells.get n).turns.request id).isHeldBy id = true) :
    (s.cells.get n).turns.holder = none := by
  rcases Turns.isHeldBy_request.mp turn with hn | hh
  · exact hn
  · rw [h.holder, isAsking_iff found, quiet] at hh
    cases hh

theorem SoleAsker.move (h : SoleAsker s) (placed : Placed s) (found : s.tasks.get? id = some st)
    (moves : Moves s id st t next) : SoleAsker (t.put id next) := by
  have ht := moves.tasks
  have asking : ∀ k n, (t.put id next).IsAsking k n ↔
      (s.IsAsking k n ∧ k ≠ id) ∨ k = id ∧ next.asks? = some n :=
    exists_put (fun _ => rfl) ht
  cases moves.seeks with
  | nothing same apart free =>
    apply h.put found ht
    · simp [same]
    · rw [asks?_of_cell? apart, asks?_of_cell? free]
  | forget v here forgotten apart =>
    apply h.put found ht
    · intro n
      rw [forgotten]
      rfl
    · rw [asks?_of_cell? apart, here]
      rfl
  | want v reader wanted goal free =>
    apply h.put found ht
    · intro n
      rw [wanted, Cells.get_ofDocument]
    · rw [asks?_of_cell? free, goal]
      rfl
  | filled v n reader here settings value same goal =>
    apply h.put found ht
    · simp [same]
    · rw [goal, asks?_of_cell? (cell?_handOver settings reader), here]
      rfl
  | queue v n reader here requested same empty busy =>
    have quiet : st.asks? = none := by rw [here]; rfl
    obtain ⟨hheld, _⟩ := Turns.holder_of_busy busy
    have hk : ∀ k, (t.put id next).IsAsking k n ↔ s.IsAsking k n :=
      fun k => exists_put_same (fun _ => rfl) ht found (by rw [same]) k n
    refine h.put_cell found ht (placed.known id st n found (by rw [here]; rfl)) requested
      ((h.orderly n).request id) ?_ ?_ ?_
    · intro m _
      rw [same]
    · intro k
      rw [hk, ← h.holder, hheld]
    · intro _ _
      exact empty
  | ask v n reader here requested asks empty turn =>
    have quiet : st.asks? = none := by rw [here]; rfl
    have hfree := h.free_of_turn found quiet turn
    refine h.put_cell found ht (placed.known id st n found (by rw [here]; rfl)) requested
      ((h.orderly n).request id) ?_ ?_ ?_
    · intro m hm
      rw [asks, quiet]
      simp [Stage.asks?, Ne.symm hm]
    · intro k
      have none_asks : ¬ s.IsAsking k n := by
        rw [← h.holder, hfree]
        simp
      rw [asking, asks, Turns.isHeldBy_iff.mp turn]
      simp [none_asks, Stage.asks?, eq_comm]
    · intro _ _
      exact empty
  | fill n reader x here fills goal =>
    have held : (s.cells.get n).turns.holder = some id := by
      rw [h.holder, isAsking_iff found, here]
      rfl
    have quiet : next.asks? = none := by rw [goal, asks?_of_cell? (cell?_handOver _ reader)]
    have nobody : ∀ k, ¬ (t.put id next).IsAsking k n := by
      intro k hk
      rw [asking, quiet, ← h.holder, held] at hk
      simp only [Option.some.injEq, ne_eq, reduceCtorEq, and_false, or_false] at hk
      exact hk.2 hk.1.symm
    refine h.put_cell found ht (placed.known id st n found (by rw [here]; rfl)) fills .free ?_ ?_ ?_
    · intro m hm
      rw [quiet, here]
      simp [Stage.asks?, Ne.symm hm]
    · intro k
      simp [nobody k]
    · intro k hk
      exact (nobody k hk).elim

theorem SoleAsker.step (h : SoleAsker s) (placed : Placed s) (hs : Step s a t es)
    (kept : ∀ k, a ≠ .drop k) : SoleAsker t := by
  cases hs with
  | known | rest | unheard | idle | gone => exact h
  | openDocument => exact h.congr (fun _ => rfl) (fun _ _ => Iff.rfl)
  | invalidate u => exact h.congr (fun _ => by cases u <;> rfl) (fun _ _ => Iff.rfl)
  | drop id st found => exact (kept id rfl).elim
  | call id job new =>
    apply h.congr
    · intro n
      rw [cells_put]
    · intro k n
      rw [IsAsking, exists_put (fun _ => rfl) rfl]
      by_cases hk : k = id
      · subst hk
        simp [IsAsking, Stage.asks?, contains_eq_false.mp new]
      · simp [IsAsking, hk]
  | advance id st found ready t next moves => exact h.move placed found moves
  | answer id x c plan found => exact h.put found rfl (fun _ => rfl) (asks?_back c plan x)
  | linted id p settings found => exact h.put found rfl (fun _ => rfl) rfl
  | changeText u text version =>
    rcases changeText_cases s u text version with he | ⟨d, he⟩ <;> rw [he]
    · exact h
    · exact h.congr (fun _ => rfl) (fun _ _ => Iff.rfl)
  | reload files root =>
    rw [reload_eq]
    exact h.congr (fun _ => rfl) (fun _ _ => Iff.rfl)

/-- As long as no task is dropped, each cell is asked for by the holder of its turn alone. -/
theorem soleAsker_after (as : List Action) (kept : ∀ k, Action.drop k ∉ as) :
    SoleAsker (after as) := by
  induction as using List.reverseRecOn with
  | nil =>
    refine ⟨?_, ?_, ?_⟩
    · intro n
      exact .free
    · intro k n
      constructor
      · intro hk
        cases hk
      · intro ⟨st, hk, _⟩
        cases hk
    · intro k n ⟨st, hk, _⟩
      cases hk
  | append_singleton as a ih =>
    rw [after_snoc]
    apply (ih fun k hk => kept k (List.mem_append_left _ hk)).step (placed_after as)
      (step_act (after as) a)
    intro k hk
    exact kept k (by simp [hk])

end Session

end Considerate
