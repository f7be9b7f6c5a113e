import Considerate.Proofs.Keyed
import Considerate.Proofs.Session.Awaited
import Considerate.Proofs.Session.Turns

namespace Considerate

def Plan.ahead : Plan → Nat
  | finish _ | release _ _ => 1
  | close _ _ => 2
  | conclude _ _ => 6
  | configure _ => 16
  | announce _ => 17

def Reader.ahead : Reader → Nat
  | caller => 2
  | pass _ => 13

def Return.ahead : Return → Nat
  | shown next | told next => next.ahead
  | configured _ reader => reader.ahead - 1
  | applied _ _ => 5

def Access.ahead : Access → Nat
  | change _ _ next => next.ahead + 1
  | fix _ _ _ => 6
  | read _ parts _ => 3 * parts.length + 1

def Job.ahead : Job → Nat
  | validate _ => 21
  | close _ | settings _ | change _ _ => 5
  | quickFix _ _ _ => 9
  | read _ parts => 3 * parts.length + 4

/-- The stages that are ahead of a task, when it need not wait for a turn. -/
def Stage.ahead : Stage → Nat
  | fresh job => job.ahead
  | store a => a.ahead
  | calling _ next | back next _ => next.ahead
  | cell _ _ reader => reader.ahead
  | linting _ _ => 11
  | linted _ _ => 10
  | done _ => 0

/-- The stages that are ahead of a task at the most, with those at which it waits for a turn. -/
def Stage.most : Stage → Nat
  | store a => a.ahead + 2
  | cell _ _ reader => reader.ahead + 2
  | stage => stage.ahead

def Request.worth : Nat := 20

namespace Turns

/-- How often a task that is to get a turn has still to ask or to be called for it. -/
def slack (t : Turns) (id : Nat) : Nat :=
  if t.holder = some id then 0 else if id ∈ t.waiting then 1 else 2

variable {t : Turns} {id k : Nat}

theorem slack_le (t : Turns) (id : Nat) : t.slack id ≤ 2 := by
  unfold slack
  split
  · omega
  · split <;> omega

theorem slack_request (h : k ≠ id) : (t.request id).slack k = t.slack k := by
  unfold request
  split
  · rename_i free
    simp [slack, free, Ne.symm h]
  · split
    · rfl
    · simp [slack, h]

/-- Who waits after asking has asked. -/
theorem slack_of_busy (busy : (t.request id).isHeldBy id = false) : (t.request id).slack id ≤ 1 := by
  have waits : id ∈ (t.request id).waiting := by
    cases ht : t.holder with
    | none =>
      rw [request_isHeldBy ht] at busy
      cases busy
    | some l =>
      simp only [request, ht] at busy ⊢
      split at busy
      · rename_i there
        rw [busy, Bool.false_or, List.contains_iff_mem] at there
        rw [if_pos (by rw [busy, Bool.false_or, List.contains_iff_mem.mpr there])]
        exact there
      · rename_i new
        rw [if_neg new]
        simp
  rw [slack, if_pos waits]
  split <;> omega

theorem slack_pass (held : t.holder = some id) (h : k ≠ id) : t.pass.slack k ≤ t.slack k := by
  unfold pass
  split
  · rename_i hw
    simp [slack, hw, held, Ne.symm h]
  · rename_i next rest hw
    by_cases hk : next = k
    · simp [slack, hk]
    · simp [slack, hw, held, hk, Ne.symm hk, Ne.symm h]

theorem slack_pass_lt (held : t.holder = some id) (h : k ≠ id) (called : t.pass.holder = some k) :
    t.pass.slack k + 1 ≤ t.slack k ∧ k ∈ t.waiting := by
  have waits : k ∈ t.waiting := List.mem_of_head? (holder_pass t ▸ called)
  have before : t.slack k = 1 := by
    rw [slack, if_neg (by rw [held, Option.some.injEq]; exact Ne.symm h), if_pos waits]
  have after : t.pass.slack k = 0 := if_pos called
  exact ⟨by omega, waits⟩

end Turns

/-- As for a turn, which nobody needs when the cell is filled. -/
def Cell.slack (c : Cell) (id : Nat) : Nat := if c.value.isSome then 0 else c.turns.slack id

theorem Cell.slack_le (c : Cell) (id : Nat) : c.slack id ≤ 2 := by
  unfold slack
  split
  · omega
  · exact c.turns.slack_le id

namespace Session

variable {s t : Session} {id k : Nat} {st next : Stage} {plan : Plan}

def ahead (s : Session) (id : Nat) : Stage → Nat
  | .store a => a.ahead + s.turns.slack id
  | .cell _ n reader => reader.ahead + (s.cells.get n).slack id
  | stage => stage.ahead

theorem ahead_le_most (s : Session) (id : Nat) (st : Stage) : s.ahead id st ≤ st.most := by
  cases st with
  | store a => exact Nat.add_le_add_left (s.turns.slack_le id) _
  | cell u n reader => exact Nat.add_le_add_left ((s.cells.get n).slack_le id) _
  | _ => exact Nat.le_refl _

theorem ahead_le (s : Session) (id : Nat) (st : Stage) : st.ahead ≤ s.ahead id st := by
  cases st with
  | store a => exact Nat.le_add_right ..
  | cell u n reader => exact Nat.le_add_right ..
  | _ => exact Nat.le_refl _

theorem Begins.most {r : Request} {ticket : Nat} (h : Begins s r ticket t st) :
    st.most ≤ Request.worth := by
  cases h <;> simp [Stage.most, Stage.ahead, tell, Return.ahead, Access.ahead, Plan.ahead, Request.worth]

theorem Resumes.ahead (h : Resumes s plan t next) :
    next.most + Request.worth * t.schedule.queued.length + 1 ≤
      plan.ahead + Request.worth * s.schedule.queued.length := by
  cases h with
  | replay p es owner r schedule handed t next begins =>
    have hb := begins.most
    have hq : t.schedule.queued.length = s.schedule.queued.length - 1 := by
      rw [begins.schedule, handed.queue, List.length_erase_of_mem handed.waited]
    have := List.length_pos_of_mem handed.waited
    simp only [Plan.ahead, hq, Request.worth] at *
    omega
  | _ =>
    simp only [Stage.most, Stage.ahead, tell, Return.ahead, Plan.ahead, Access.ahead, Reader.ahead,
      Request.worth]
    omega

theorem Resumes.most (h : Resumes s plan t next) : next.most ≤ max plan.ahead Request.worth := by
  cases h with
  | replay p es owner r schedule handed t next begins =>
    exact Nat.le_trans begins.most (Nat.le_max_right ..)
  | _ =>
    refine Nat.le_trans ?_ (Nat.le_max_right ..)
    simp [Stage.most, Stage.ahead, tell, Return.ahead, Plan.ahead, Access.ahead, Reader.ahead,
      Request.worth]

/-- No more lies ahead of a task than when it began, or than ahead of a pass that begins. -/
theorem Moves.most (h : Moves s id st t next) : next.most ≤ max st.most Request.worth := by
  cases h with
  | start r idle t next begins => exact Nat.le_trans begins.most (Nat.le_max_right ..)
  | keep u c plan turn store changed t next resumes =>
    have less : plan.ahead ≤ (Stage.store (.change u c plan)).most := by
      simp only [Stage.most, Access.ahead]
      omega
    have := resumes.most
    omega
  | shown plan x t next resumes | told plan x t next resumes => exact resumes.most
  | configured n reader x | filled u n reader settings value =>
    refine Nat.le_trans ?_ (Nat.le_max_right ..)
    cases reader <;> simp [Stage.most, Stage.ahead, handOver, Request.worth]
  | ask u n reader empty turn =>
    refine Nat.le_trans ?_ (Nat.le_max_right ..)
    cases reader <;> simp [Stage.most, Stage.ahead, Return.ahead, Reader.ahead, Request.worth]
  | _ =>
    simp only [Stage.most, Stage.ahead, Job.ahead, Access.ahead, Return.ahead, Reader.ahead, Plan.ahead,
      tell, List.length_cons, List.length_nil, Request.worth]
    omega

/-- How a task goes on: there is less ahead of it, or it has asked for a turn and waits. -/
inductive Nears (s : Session) (id : Nat) (st : Stage) (t : Session) (next : Stage) : Prop
  | less (less : next.most + Request.worth * t.schedule.queued.length + 1 ≤
      st.ahead + Request.worth * s.schedule.queued.length)
  | queue (a : Access) (here : st = .store a) (there : next = .store a)
      (busy : (s.turns.request id).isHeldBy id = false)
      (asked : t = { s with turns := s.turns.request id })
  | queueForCell (u : Url) (n : Nat) (reader : Reader) (here : st = .cell u n reader)
      (there : next = .cell u n reader) (empty : (s.cells.get n).value = none)
      (busy : ((s.cells.get n).turns.request id).isHeldBy id = false)
      (asked : t = s.requestCell n id)

theorem Moves.nears (h : Moves s id st t next) : Nears s id st t next := by
  cases h with
  | wait r busy =>
    refine .less ?_
    have : (s.schedule.enqueue r).queued.length ≤ s.schedule.queued.length + 1 := by
      unfold Schedule.enqueue
      split <;> simp
    simp only [Stage.most, Stage.ahead, Job.ahead, Request.worth]
    omega
  | start r idle t next begins =>
    have hb := begins.most
    refine .less ?_
    rw [begins.schedule]
    simp only [Stage.ahead, Job.ahead, Schedule.claim, Request.worth] at *
    omega
  | close u =>
    refine .less ?_
    have : (s.schedule.cancel u).queued.length ≤ s.schedule.queued.length := List.length_filter_le ..
    simp only [Stage.most, Stage.ahead, Job.ahead, Access.ahead, Plan.ahead, forget, Request.worth]
    omega
  | queue a busy => exact .queue a rfl rfl busy rfl
  | queueForCell u n reader empty busy => exact .queueForCell u n reader rfl rfl empty busy rfl
  | keep u c plan turn store changed t next resumes =>
    have := resumes.ahead
    refine .less ?_
    simp only [Stage.ahead, Access.ahead, Request.worth] at *
    omega
  | shown plan x t next resumes | told plan x t next resumes => exact .less resumes.ahead
  | configured n reader x =>
    refine .less ?_
    cases reader <;> simp only [Stage.most, Stage.ahead, handOver, Return.ahead, Reader.ahead] <;> omega
  | filled u n reader settings value =>
    refine .less ?_
    cases reader <;> simp only [Stage.most, Stage.ahead, handOver, Reader.ahead] <;> omega
  | ask u n reader empty turn =>
    refine .less ?_
    have : (s.requestCell n id).schedule = s.schedule := rfl
    cases reader <;> simp only [Stage.most, Stage.ahead, this, Return.ahead, Reader.ahead] <;> omega
  | _ =>
    refine .less ?_
    simp only [Stage.most, Stage.ahead, Job.ahead, Access.ahead, Return.ahead, Reader.ahead, Plan.ahead,
      tell, List.length_cons, List.length_nil]
    omega

end Session

end Considerate
