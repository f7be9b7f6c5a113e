import Considerate.Proofs.History
import Considerate.Proofs.Schedule.Operations
import Considerate.Schedule.Run
import Mathlib.Data.List.Induction

namespace Considerate.Schedule.Run

variable {α : Type} [Inhabited α]

/-- The state after the actions, when nothing runs at first. -/
def after (as : List (Action α)) : Run := as.foldl (fun r a => (r.act a).1) {}

@[simp] theorem after_nil : after ([] : List (Action α)) = {} := rfl

@[simp] theorem after_snoc (as : List (Action α)) (a : Action α) :
    after (as ++ [a]) = ((after as).act a).1 := by
  simp [after]

/-- What `f` sees of each action, from the state `r` on. -/
def gather {β : Type} (f : Run → Action α → List β) (r : Run) (as : List (Action α)) : List β :=
  Considerate.gather (fun r a => (r.act a).1) f r as

@[simp] theorem gather_nil {β : Type} (f : Run → Action α → List β) (r : Run) :
    gather f r [] = [] := rfl

theorem gather_after_snoc {β : Type} (f : Run → Action α → List β) (before as : List (Action α))
    (a : Action α) :
    gather f (after before) (as ++ [a]) =
      gather f (after before) as ++ f (after (before ++ as)) a := by
  rw [gather, gather_snoc]
  simp [after, gather]

def begun (r : Run) (id : Nat) (q : Request) (ticket : Nat) : Caller := ⟨id, q, ticket, r.passes⟩

/-- What an action can do, case by case. -/
inductive Step (r : Run) : Action α → Run → List (Effect α) → Prop
  | wait (id : Nat) (q : Request) (busy : r.schedule.isPending q.url = true) :
      Step r (.validate id q) { r with schedule := r.schedule.enqueue q }
        [.returned id (.done default)]
  | start (id : Nat) (q : Request) (idle : r.schedule.isPending q.url = false) :
      Step r (.validate id q)
        { schedule := (r.schedule.claim q).1
          callers := r.callers ++ [r.begun id q (r.schedule.lastTicket + 1)]
          passes := r.passes + 1 }
        [.started r.passes q]
  | unknown (pass : Nat) (x : Option α) (missing : r.callerOf pass = none) :
      Step r (.settle pass x) r []
  | stale (pass : Nat) (x : Option α) (c : Caller) (found : r.callerOf pass = some c)
      (old : r.schedule.owns c.request.url c.ticket = false) :
      Step r (.settle pass x) (r.remove c) [.returned c.id (.done (x.getD default))]
  | free (pass : Nat) (x : Option α) (c : Caller) (found : r.callerOf pass = some c)
      (owner : r.schedule.owns c.request.url c.ticket = true)
      (empty : r.schedule.queuedFor c.request.url = []) :
      Step r (.settle pass x)
        { r.remove c with
          schedule := { r.schedule with pending := r.schedule.pending.erase c.request.url } }
        [.returned c.id (.done (x.getD default))]
  | replay (pass : Nat) (x : Option α) (c : Caller) (found : r.callerOf pass = some c)
      (owner : r.schedule.owns c.request.url c.ticket = true) (next : Request) (t : Schedule)
      (handed : HandedOver r.schedule c.request.url next t) :
      Step r (.settle pass x)
        { schedule := t
          callers := (r.remove c).callers ++ [r.begun c.id next (r.schedule.lastTicket + 1)]
          passes := r.passes + 1 }
        [.started r.passes next]
  | absent (id : Nat) (missing : r.callers.find? (fun c => c.id = id) = none) :
      Step r (.abandon id) r []
  | drop (id : Nat) (c : Caller) (found : r.callers.find? (fun c => c.id = id) = some c) :
      Step r (.abandon id)
        { r.remove c with schedule := r.schedule.drop c.request.url c.ticket }
        [.returned c.id .abandoned]
  | cancel (u : Url) : Step r (.cancel u) { r with schedule := r.schedule.cancel u } []

theorem step_act (r : Run) (a : Action α) : Step r a (r.act a).1 (r.act a).2 := by
  cases a with
  | validate id q =>
    cases hp : r.schedule.isPending q.url with
    | true =>
      simp only [act, submit, hp, if_true]
      exact .wait id q hp
    | false =>
      simp only [act, submit, hp]
      exact .start id q hp
  | settle pass x =>
    cases hc : r.callerOf pass with
    | none =>
      simp only [act, hc]
      exact .unknown pass x hc
    | some c =>
      rcases release_cases r.schedule c.request.url c.ticket with
        ⟨ho, hr⟩ | ⟨ho, hq, hr⟩ | ⟨ho, next, t, ht, hr⟩
      · simp only [act, hc, remove, hr]
        exact .stale pass x c hc ho
      · simp only [act, hc, remove, hr]
        exact .free pass x c hc ho hq
      · simp only [act, hc, remove, hr]
        exact .replay pass x c hc ho next t ht
  | abandon id =>
    cases hc : r.callers.find? (fun c => c.id = id) with
    | none =>
      simp only [act, hc]
      exact .absent id hc
    | some c =>
      simp only [act, hc]
      exact .drop id c hc
  | cancel u => exact .cancel u

@[simp] theorem schedule_remove (r : Run) (c : Caller) : (r.remove c).schedule = r.schedule := rfl

theorem mem_remove {r : Run} {c d : Caller} : d ∈ (r.remove c).callers ↔ d ∈ r.callers ∧ d ≠ c := by
  simp [remove]

theorem mem_of_callerOf {r : Run} {pass : Nat} {c : Caller} (h : r.callerOf pass = some c) :
    c ∈ r.callers ∧ c.pass = pass :=
  ⟨List.mem_of_find?_eq_some h, by simpa using List.find?_some h⟩

theorem mem_of_find_id {r : Run} {id : Nat} {c : Caller}
    (h : r.callers.find? (fun c => c.id = id) = some c) : c ∈ r.callers ∧ c.id = id :=
  ⟨List.mem_of_find?_eq_some h, by simpa using List.find?_some h⟩

end Considerate.Schedule.Run
