import Considerate.Proofs.Session.Course
import Considerate.Proofs.Turns

namespace Considerate

/-- Whether a task has a publication with the editor, and holds the store for that time. -/
def Stage.isShowing : Stage → Bool
  | .calling _ (.shown _) | .back (.shown _) _ => true
  | _ => false

def Stage.isAtStore : Stage → Bool
  | .store _ => true
  | _ => false

namespace Session

variable {s t : Session} {id : Nat} {st next : Stage}

/-- What a task does with the line for the store. -/
inductive Queues (s : Session) (id : Nat) (st : Stage) (t : Session) (next : Stage) : Prop
  | apart (same : t.turns = s.turns) (off : st.isAtStore = false) (quiet : st.isShowing = false)
      (silent : next.isShowing = false)
  | waits (there : st.isAtStore = true) (busy : (s.turns.request id).isHeldBy id = false)
      (requested : t.turns = s.turns.request id) (same : next = st)
  | shows (u : Url) (c : Change) (plan : Plan) (here : st = .store (.change u c plan))
      (turn : (s.turns.request id).isHeldBy id = true) (requested : t.turns = s.turns.request id)
      (showing : next.isShowing = true) (off : next.isAtStore = false)
  | leaves (there : st.isAtStore = true) (turn : (s.turns.request id).isHeldBy id = true)
      (passed : t.turns = (s.turns.request id).pass) (silent : next.isShowing = false)
  | returns (showing : st.isShowing = true) (passed : t.turns = s.turns.pass)
      (silent : next.isShowing = false)

theorem Begins.turns {r : Request} {ticket : Nat} (h : Begins s r ticket t st) :
    t.turns = s.turns := by
  rw [h.frame]

theorem Begins.not_showing {r : Request} {ticket : Nat} (h : Begins s r ticket t st) :
    st.isShowing = false := by
  cases h <;> rfl

theorem Resumes.turns {plan : Plan} (h : Resumes s plan t st) : t.turns = s.turns := by
  rw [h.frame]

theorem Resumes.not_showing {plan : Plan} (h : Resumes s plan t st) : st.isShowing = false := by
  cases h with
  | replay p es owner r schedule handed t st begins => exact begins.not_showing
  | _ => rfl

theorem Moves.queues (h : Moves s id st t next) : Queues s id st t next := by
  cases h with
  | start r idle t next begins => exact .apart begins.turns rfl rfl begins.not_showing
  | queue a busy => exact .waits rfl busy rfl rfl
  | publish u c plan turn store ds changed => exact .shows u c plan rfl turn rfl rfl rfl
  | keep u c plan turn store changed t next resumes =>
    exact .leaves rfl turn resumes.turns resumes.not_showing
  | unfound u code value turn missing | apply u code value turn d found
  | readNothing u v turn | readLast u part v turn | readNext u part another parts v turn =>
    exact .leaves rfl turn rfl rfl
  | shown plan x t next resumes => exact .returns rfl resumes.turns resumes.not_showing
  | told plan x t next resumes => exact .apart resumes.turns rfl rfl resumes.not_showing
  | configured n reader x => cases reader <;> exact .apart rfl rfl rfl rfl
  | filled u n reader settings value => cases reader <;> exact .apart rfl rfl rfl rfl
  | _ => exact .apart rfl rfl rfl rfl

/-- The line for the store is in order, and the tasks in it are where they should be. -/
structure InTurn (s : Session) : Prop where
  orderly : s.turns.Orderly
  known : ∀ k ∈ s.turns.line, ∃ st, s.tasks.get? k = some st ∧
    (st.isAtStore = true ∨ st.isShowing = true)
  showing : ∀ k st, s.tasks.get? k = some st → st.isShowing = true → s.turns.holder = some k

theorem InTurn.not_mem (h : InTurn s) (found : s.tasks.get? id = some st)
    (off : st.isAtStore = false) (quiet : st.isShowing = false) : id ∉ s.turns.line := by
  intro hm
  obtain ⟨st', hs, hp⟩ := h.known id hm
  rw [found, Option.some.injEq] at hs
  subst hs
  rw [off, quiet] at hp
  simp at hp

theorem InTurn.holder_ne (h : InTurn s) (found : s.tasks.get? id = some st)
    (off : st.isAtStore = false) (quiet : st.isShowing = false) : s.turns.holder ≠ some id := by
  intro hh
  exact h.not_mem found off quiet (Turns.mem_line.mpr (Or.inl hh))

@[simp] theorem turns_put (s : Session) (id : Nat) (st : Stage) :
    (s.put id st).turns = s.turns := by
  rw [put_eq]

theorem found_put_self (ht : next.isAtStore = true ∨ next.isShowing = true) :
    (t.put id next).tasks.get? id = some next := by
  rcases tasks_put_self t id next with ⟨hs, _⟩ | ⟨_, v, hv⟩
  · exact hs
  · subst hv
    simp [Stage.isAtStore, Stage.isShowing] at ht

/-- The line stays in order when a task goes to another stage, if those in it are still there. -/
theorem InTurn.put (h : InTurn s) (ht : t.tasks = s.tasks) (orderly : t.turns.Orderly)
    (self : id ∈ t.turns.line → next.isAtStore = true ∨ next.isShowing = true)
    (others : ∀ k ∈ t.turns.line, k ≠ id → k ∈ s.turns.line)
    (mine : next.isShowing = true → t.turns.holder = some id)
    (theirs : ∀ k, k ≠ id → s.turns.holder = some k → ∀ st, s.tasks.get? k = some st →
      st.isShowing = true → t.turns.holder = some k) : InTurn (t.put id next) := by
  refine ⟨?_, ?_, ?_⟩
  · rw [turns_put]
    exact orderly
  · intro k hk
    rw [turns_put] at hk
    by_cases hi : k = id
    · subst hi
      exact ⟨next, found_put_self (self hk), self hk⟩
    · rw [tasks_put_ne _ _ hi, ht]
      exact h.known k (others k hk hi)
  · intro k st hk hs
    rw [turns_put]
    rcases tasks_put_cases hk with ⟨rfl, rfl⟩ | ⟨hi, hk⟩
    · exact mine hs
    · rw [ht] at hk
      exact theirs k hi (h.showing k st hk hs) st hk hs

theorem InTurn.move (h : InTurn s) (found : s.tasks.get? id = some st) (ht : t.tasks = s.tasks)
    (queues : Queues s id st t next) : InTurn (t.put id next) := by
  have hline := h.orderly.line_request id
  cases queues with
  | apart same off quiet silent =>
    have hm := h.not_mem found off quiet
    refine h.put ht (same ▸ h.orderly) ?_ ?_ (by simp [silent]) ?_
    · rw [same]
      exact fun hk => (hm hk).elim
    · rw [same]
      exact fun _ hk _ => hk
    · rw [same]
      exact fun _ _ hk _ _ _ => hk
  | waits there busy requested same =>
    subst same
    have hs : next.isShowing = false := by
      cases next <;> simp [Stage.isAtStore] at there
      rfl
    refine h.put ht (requested ▸ h.orderly.request id) (fun _ => Or.inl there) ?_ (by simp [hs]) ?_
    · rw [requested, hline]
      intro k hk hi
      split at hk
      · exact hk
      · simpa [hi] using hk
    · intro k _ hk st' _ _
      rw [requested, (h.orderly.request id).holder_eq, hline]
      rw [h.orderly.holder_eq] at hk
      split
      · exact hk
      · rw [List.head?_append, hk]
        rfl
  | shows u c plan here turn requested showing off =>
    have hq := turn
    rw [Turns.isHeldBy_request] at hq
    have hheld : t.turns.holder = some id := by
      rw [requested]
      exact Turns.isHeldBy_iff.mp turn
    refine h.put ht (requested ▸ h.orderly.request id) (fun _ => Or.inr showing) ?_
      (fun _ => hheld) ?_
    · rw [requested, hline]
      intro k hk hi
      split at hk
      · exact hk
      · simpa [hi] using hk
    · intro k hi hk st' _ _
      rw [hk] at hq
      simp [hi] at hq
  | leaves there turn passed silent =>
    have ho := h.orderly.request id
    have hheld := Turns.isHeldBy_iff.mp turn
    have hq := turn
    rw [Turns.isHeldBy_request] at hq
    have htl : t.turns.line = (s.turns.request id).waiting := by
      rw [passed, Turns.line_pass]
    refine h.put ht (passed ▸ ho.pass) ?_ ?_ (by simp [silent]) ?_
    · rw [htl]
      exact fun hm => (ho.not_waiting hheld hm).elim
    · rw [htl]
      intro k hk hi
      have hk : k ∈ (s.turns.request id).line := Turns.mem_line.mpr (Or.inr hk)
      rw [hline] at hk
      split at hk
      · exact hk
      · simpa [hi] using hk
    · intro k hi hk st' _ _
      rw [hk] at hq
      simp [hi] at hq
  | returns showing passed silent =>
    have hheld := h.showing id st found showing
    have htl : t.turns.line = s.turns.waiting := by
      rw [passed, Turns.line_pass]
    refine h.put ht (passed ▸ h.orderly.pass) ?_ ?_ (by simp [silent]) ?_
    · rw [htl]
      exact fun hm => (h.orderly.not_waiting hheld hm).elim
    · rw [htl]
      exact fun k hk _ => Turns.mem_line.mpr (Or.inr hk)
    · intro k hi hk st' _ _
      rw [hheld, Option.some.injEq] at hk
      exact (hi hk.symm).elim

theorem turns_letGo (s : Session) (id : Nat) (st : Stage) :
    (s.letGo id st).turns = s.turns.leave id := by
  unfold letGo
  cases st.cell? <;> cases st.pass? <;> rfl

theorem InTurn.step {a : Action} {es : List Effect} (h : InTurn s) (hs : Step s a t es) :
    InTurn t := by
  cases hs with
  | known | rest | unheard | idle | gone | openDocument | invalidate =>
    exact ⟨h.orderly, h.known, h.showing⟩
  | call id job new =>
    have hn : id ∉ s.turns.line := by
      intro hm
      obtain ⟨st, hs, _⟩ := h.known id hm
      simp [Keyed.contains, hs] at new
    exact h.put rfl h.orderly (fun hm => (hn hm).elim) (fun _ hk _ => hk) (by simp [Stage.isShowing])
      (fun _ _ hk _ _ _ => hk)
  | advance id st found ready t next moves => exact h.move found moves.tasks moves.queues
  | answer id x c plan found =>
    have hs : (Stage.back plan x).isShowing = (Stage.calling c plan).isShowing := by
      cases plan <;> rfl
    refine h.put rfl h.orderly ?_ (fun _ hk _ => hk) ?_ (fun _ _ hk _ _ _ => hk)
    · intro hm
      obtain ⟨st, hf, hp⟩ := h.known id hm
      rw [found, Option.some.injEq] at hf
      subst hf
      rw [hs]
      simpa [Stage.isAtStore] using hp
    · intro hp
      exact h.showing id _ found (hs ▸ hp)
  | linted id p settings found =>
    have hn := h.not_mem found rfl rfl
    exact h.put rfl h.orderly (fun hm => (hn hm).elim) (fun _ hk _ => hk) (by simp [Stage.isShowing])
      (fun _ _ hk _ _ _ => hk)
  | drop id st found =>
    refine ⟨?_, ?_, ?_⟩
    · rw [turns_letGo]
      exact h.orderly.leave id
    · intro k hk
      rw [turns_letGo, h.orderly.line_leave id, List.mem_filter, decide_eq_true_eq] at hk
      rw [tasks_letGo, Keyed.get?_erase_ne _ hk.2]
      exact h.known k hk.1
    · intro k st' hk hp
      rw [tasks_letGo] at hk
      by_cases hi : k = id
      · subst hi
        rw [Keyed.get?_erase_self] at hk
        cases hk
      · rw [Keyed.get?_erase_ne _ hi] at hk
        have hh := h.showing k st' hk hp
        have hne : ¬ s.turns.isHeldBy id = true := by
          rw [Turns.isHeldBy_iff, hh, Option.some.injEq]
          exact hi
        rw [turns_letGo, Turns.leave, if_neg hne]
        exact hh
  | changeText u text version =>
    rcases changeText_cases s u text version with he | ⟨d, he⟩ <;> rw [he] <;>
      exact ⟨h.orderly, h.known, h.showing⟩
  | reload files root =>
    rw [reload_eq]
    exact ⟨h.orderly, h.known, h.showing⟩

/-- In every state that a session reaches, the line for the store is in order. -/
theorem inTurn_after (as : List Action) : InTurn (after as) := by
  induction as using List.reverseRecOn with
  | nil =>
    refine ⟨.free, ?_, ?_⟩
    · intro k hk
      cases hk
    · intro k st hk
      cases hk
  | append_singleton as a ih =>
    rw [after_snoc]
    exact ih.step (step_act (after as) a)

end Session

end Considerate
