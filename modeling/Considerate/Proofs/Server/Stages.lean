import Considerate.Proofs.Keyed
import Considerate.Proofs.Session.Turns
import Considerate.Server.Basic

namespace Considerate

namespace Session

variable (s : Session) {id : Nat} {st next : Stage}

/-- A task that is put at two stages one after the other is at the second one. -/
theorem put_put (going : ∀ v, st ≠ .done v) : (s.put id st).put id next = s.put id next := by
  have set_set : ∀ a b : Stage, (s.tasks.set id b).set id a = s.tasks.set id a := fun a b =>
    congrArg Keyed.mk (Keyed.put_put id a b _)
  have erase_set : ∀ b : Stage, (s.tasks.set id b).erase id = s.tasks.erase id := fun b =>
    congrArg Keyed.mk (Keyed.filter_put id b _)
  cases st with
  | done v => exact (going v rfl).elim
  | _ => cases next <;> simp [put, set_set, erase_set]

/-- A task that has ended leaves nothing behind among the tasks. -/
theorem put_done {v : Value} (new : s.tasks.get? id = none) : s.put id (.done v) = s := by
  have he : s.tasks.erase id = s.tasks := congrArg Keyed.mk (Keyed.filter_of_find new)
  simp [put, he]

theorem tasks_put (going : ∀ v, st ≠ .done v) : (s.put id st).tasks.get? id = some st := by
  rcases s.tasks_put_self id st with ⟨h, _⟩ | ⟨_, v, h⟩
  · exact h
  · exact (going v h).elim

/-- Where no cell changes, a task can be woken by its turn in the store only. -/
theorem wokenSince_of_cells {s t : Session} (h : t.cells = s.cells) :
    wokenSince s t = Turns.newHolder s.turns t.turns := by
  rw [wokenSince, h, List.append_right_eq_self]
  generalize s.cells.all = cells
  induction cells with
  | nil => rfl
  | cons c cells ih =>
    rw [List.zip_cons_cons, List.flatMap_cons, ih, List.append_nil]
    cases hv : c.value <;> simp [hv, Turns.newHolder]

end Session

namespace Server

open Session

/-- The server with its session in this state and these tasks ready to go on. -/
def during (s : Server) (t : Session) (ready : List Nat) : Server :=
  { s with run := { s.run with session := t, ready } }

variable {s : Server} {t t' : Session} {id : Nat} {st next : Stage} (n : Nat)

theorem launch_of_new (new : s.run.session.tasks.get? (s.lastTask + 1) = none) (job : Job)
    (purpose : Purpose) :
    s.launch job purpose =
      { s with
        run := { s.run with
          session := s.run.session.put (s.lastTask + 1) (.fresh job)
          ready := s.run.ready ++ [s.lastTask + 1] }
        purposes := s.purposes.set (s.lastTask + 1) purpose
        lastTask := s.lastTask + 1 } := by
  simp only [launch, Run.act, Session.act, contains_eq_false.mpr new, if_false,
    Bool.false_eq_true, List.foldl_cons, List.foldl_nil, Run.note]

/-- Where no task can go on and none is being linted nothing happens. -/
theorem steps_rest (idle : s.run.linting = []) : (s.during t []).steps n = (s.during t [], []) := by
  cases n with
  | zero => rfl
  | succ n => simp [steps, Run.step, during, idle]

/-- A task goes from one stage to the next, and no other is woken by that. -/
structure Passes (t : Session) (id : Nat) (st : Stage) (t' : Session) (next : Stage) : Prop where
  going : ∀ v, st ≠ .done v
  ready : (t.put id st).canGoOn id st = true
  advances : ((t.put id st).advance id st) = (t'.put id st, next)
  alone : (wokenSince (t.put id st) (t'.put id st)).filter (· ≠ id) = []

theorem Passes.act (h : Passes t id st t' next) :
    (t.put id st).act (.advance id) = (t'.put id next, seen id next) := by
  rw [act_advance (t.tasks_put h.going) h.ready, h.advances]
  simp only [h.alone, List.map_nil, List.nil_append, t'.put_put h.going]

/-- Nothing is to be seen of a task that comes to a stage from which it goes on at once. -/
theorem steps_silent (h : Passes t id st t' next) (silent : seen id next = [])
    (going : ∀ v, next ≠ .done v) (ready : (t'.put id next).canGoOn id next = true) :
    (s.during (t.put id st) [id]).steps (n + 1) = (s.during (t'.put id next) [id]).steps n := by
  have goes : (Run.mk (t'.put id next) s.run.editor [] s.run.linting s.run.held).canGoOn id = true := by
    simp only [Run.canGoOn, t'.tasks_put going, ready]
  simp only [steps, Run.step, during, Run.act, h.act, silent, List.foldl_nil, goes, if_true,
    observeAll, List.nil_append]

theorem steps_done {v : Value} {purpose : Purpose} (h : Passes t id st t' (.done v))
    (for_ : s.purposes.get? id = some purpose) :
    (s.during (t.put id st) [id]).steps (n + 1) =
      let s' := { s with purposes := s.purposes.erase id }.during (t'.put id (.done v)) []
      let ended := s'.conclude purpose v
      let rest := ended.1.steps n
      (rest.1, ended.2 ++ rest.2) := by
  have stays : (Run.mk (t'.put id (.done v)) s.run.editor [] s.run.linting s.run.held).canGoOn id =
      false := by
    have gone : (t'.put id (.done v)).tasks.get? id = none := Keyed.get?_erase_self ..
    simp only [Run.canGoOn, gone]
  simp only [steps, Run.step, during, Run.act, h.act, seen, List.foldl_cons, List.foldl_nil,
    Run.note, stays, if_false, Bool.false_eq_true, observeAll, observe, for_, List.append_nil]

end Server

end Considerate
