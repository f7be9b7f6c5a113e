import Considerate.Schedule.Basic

namespace Considerate.Schedule

/-- A caller whose pass is running: the request of that pass, its ticket, and its number among all
passes. -/
structure Caller where
  id : Nat
  request : Request
  ticket : Nat
  pass : Nat
  deriving DecidableEq, Repr

/-- What can happen. `α` is what a pass gives. -/
inductive Action (α : Type) where
  | validate (id : Nat) (request : Request)
  | settle (pass : Nat) (result : Option α)
  | abandon (id : Nat)
  | cancel (url : Url)

/-- What a caller gets. -/
inductive Outcome (α : Type) where
  | done (result : α)
  | abandoned
  deriving DecidableEq, Repr

/-- What is to be seen of an action. -/
inductive Effect (α : Type) where
  | started (pass : Nat) (request : Request)
  | returned (id : Nat) (outcome : Outcome α)
  deriving DecidableEq, Repr

/-- A schedule with the callers whose passes are running. -/
structure Run where
  schedule : Schedule := {}
  callers : List Caller := []
  passes : Nat := 0

namespace Run

def callerOf (r : Run) (pass : Nat) : Option Caller := r.callers.find? fun c => c.pass = pass

def start {α : Type} (r : Run) (id : Nat) (request : Request) (ticket : Nat) :
    Run × List (Effect α) :=
  ({ r with callers := r.callers ++ [⟨id, request, ticket, r.passes⟩], passes := r.passes + 1 },
    [.started r.passes request])

def remove (r : Run) (c : Caller) : Run := { r with callers := r.callers.filter (· ≠ c) }

variable {α : Type} [Inhabited α]

/-- What an action does. A pass that failed gives the default result. -/
def act (r : Run) : Action α → Run × List (Effect α)
  | .validate id request =>
    match r.schedule.submit request with
    | (s, none) => ({ r with schedule := s }, [.returned id (.done default)])
    | (s, some ticket) => { r with schedule := s }.start id request ticket
  | .settle pass result =>
    match r.callerOf pass with
    | none => (r, [])
    | some c =>
      let r := r.remove c
      match r.schedule.release c.request.url c.ticket with
      | (s, none) => ({ r with schedule := s }, [.returned c.id (.done (result.getD default))])
      | (s, some (next, ticket)) => { r with schedule := s }.start c.id next ticket
  | .abandon id =>
    match r.callers.find? fun c => c.id = id with
    | none => (r, [])
    | some c =>
      ({ r.remove c with schedule := r.schedule.drop c.request.url c.ticket },
        [.returned c.id .abandoned])
  | .cancel url => ({ r with schedule := r.schedule.cancel url }, [])

end Run

end Considerate.Schedule
