import Considerate.Proofs.Server.Stages

namespace Considerate

namespace Session

variable {s : Session} {id : Nat} {u : Url}

/-- A step by which only the task itself gets to another stage. -/
theorem passes_of_same {st next : Stage} (going : ∀ v, st ≠ .done v)
    (ready : (s.put id st).canGoOn id st = true)
    (advances : (s.put id st).advance id st = (s.put id st, next)) :
    Server.Passes s id st s next where
  going := going
  ready := ready
  advances := advances
  alone := by simp [wokenSince_of_cells, Turns.newHolder]

end Session

namespace Server

open Session

/-- Nothing is under way in the server but what waits for the editor, and nobody is in the store. -/
structure Resting (s : Server) : Prop where
  ready : s.run.ready = []
  linting : s.run.linting = []
  turns : s.run.session.turns = {}
  tasks : ∀ k, s.lastTask < k → s.run.session.tasks.get? k = none
  purposes : ∀ k, s.lastTask < k → s.purposes.get? k = none

/-- The server after one more task, which has changed the store if anything. -/
def past (s : Server) (store : Store) : Server :=
  { s with
    run := { s.run with session := { s.run.session with store } }
    lastTask := s.lastTask + 1 }

variable {s : Server} {u : Url}

theorem Resting.past (rest : s.Resting) (store : Store) : (s.past store).Resting where
  ready := rest.ready
  linting := rest.linting
  turns := rest.turns
  tasks k hk := rest.tasks k (Nat.lt_of_succ_lt hk)
  purposes k hk := rest.purposes k (Nat.lt_of_succ_lt hk)

def busy (s : Server) (purpose : Purpose) : Server :=
  { s with
    purposes := s.purposes.set (s.lastTask + 1) purpose
    lastTask := s.lastTask + 1 }

theorem launch_eq (ready : s.run.ready = [])
    (new : s.run.session.tasks.get? (s.lastTask + 1) = none) (job : Job) (purpose : Purpose) :
    s.launch job purpose =
      (s.busy purpose).during (s.run.session.put (s.lastTask + 1) (.fresh job))
        [s.lastTask + 1] := by
  rw [launch_of_new new, ready]
  rfl

/-- What happens within eight steps is all that happens. -/
theorem settle_of_steps {r : Server × List Output} (h : ∀ n, s.steps (n + 8) = r) :
    s.settle = r := by
  obtain ⟨n, hn⟩ : ∃ n, s.run.bound = n + 8 := ⟨s.run.bound - 8, by unfold Run.bound; omega⟩
  rw [settle, hn, h]

section

variable (rest : s.Resting) (rid : Protocol.RequestId) {code : String} (value : String)

include rest

variable {d : Diagnostic} (found : s.run.session.store.find u code = some d)
  (connected : s.isConnected = true) (heard : s.run.editor.heard = true)
  (edits : s.run.editor.holds.contains .applyEdit = false)

include found connected heard edits

end

end Server

end Considerate
