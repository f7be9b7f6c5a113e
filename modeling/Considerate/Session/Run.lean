import Considerate.Session.Act

namespace Considerate

structure Editor where
  holds : List Call.Kind := []
  answer : Answer := {}
  /-- Whether its answers arrive. They do until it answers a call for which nobody waits. -/
  heard : Bool := true

structure Session.Run where
  session : Session := {}
  editor : Editor := {}
  ready : List Nat := []
  /-- The tasks whose documents are being linted, the oldest first. -/
  linting : List Nat := []
  /-- The tasks whose calls are held back, the oldest first. -/
  held : List (Nat × Call.Kind) := []

namespace Session.Run

def note (r : Run) : Effect → Run
  | .called id c =>
    if r.editor.holds.contains c.kind then { r with held := r.held ++ [(id, c.kind)] }
    else if r.editor.heard || !c.kind.isQuestion then
      { r with session := (r.session.act (.answer id r.editor.answer)).1 }
    else r
  | .linting id => { r with linting := r.linting ++ [id] }
  | .woken id => { r with ready := r.ready ++ [id] }
  | .finished _ _ => r

def act (r : Run) (a : Action) : Run × List Effect :=
  let (session, effects) := r.session.act a
  (effects.foldl note { r with session }, effects)

def canGoOn (r : Run) (id : Nat) : Bool :=
  match r.session.tasks.get? id with
  | none => false
  | some stage => r.session.canGoOn id stage

/-- Lets the next task that can go on do so by one stage, or else the oldest linting end; none if
all wait. -/
def step (r : Run) : Option (Run × List Effect) :=
  match r.ready, r.linting with
  | id :: ready, _ =>
    let (next, effects) := { r with ready }.act (.advance id)
    some (if next.canGoOn id then { next with ready := id :: next.ready } else next, effects)
  | [], id :: linting => some ({ r with linting }.act (.linted id))
  | [], [] => none

/-- An upper bound for the steps until all wait: a task and a queued request take some twenty
stages each, and so does a task that is started when another one has ended. -/
def bound (r : Run) : Nat :=
  64 * (r.session.tasks.entries.length + r.session.schedule.queued.length + r.ready.length +
    r.linting.length + 1)

/-- Steps until all wait, but at most `n` times. -/
def steps (n : Nat) (r : Run) : Run × List Effect :=
  match n with
  | 0 => (r, [])
  | n + 1 =>
    match r.step with
    | none => (r, [])
    | some (r, effects) =>
      let (r, more) := steps n r
      (r, effects ++ more)

/-- Goes on until all wait. -/
def settle (r : Run) : Run × List Effect := r.steps r.bound

/-- Does something to the session and goes on until all wait. -/
def perform (r : Run) (a : Action) : Run × List Effect :=
  let (r, effects) := r.act a
  let (r, more) := r.settle
  (r, effects ++ more)

/-- Drops a task. A call that the editor holds back for it stays there. -/
def drop (r : Run) (id : Nat) : Run × List Effect :=
  { r with
    ready := r.ready.filter (· ≠ id)
    linting := r.linting.filter (· ≠ id) }.act (.drop id)

/-- Takes back what the editor holds back for a task. -/
def withdraw (r : Run) (id : Nat) : Run := { r with held := r.held.filter fun h => h.1 ≠ id }

/-- Whether a task waits for an answer. -/
def isCalling (r : Run) (id : Nat) : Bool :=
  match r.session.tasks.get? id with
  | some (.calling _ _) => true
  | _ => false

/-- Answers the call at place `n` among those that are held back. -/
def answerHeld (r : Run) (n : Nat) (a : Answer) : Run :=
  match r.held[n]? with
  | none => r
  | some (id, _) =>
    let r := { r with held := r.held.eraseIdx n }
    if !r.editor.heard then r
    else if r.isCalling id then (r.act (.answer id a)).1
    else { r with editor := { r.editor with heard := false } }

def answerOldest (r : Run) : Nat → Run
  | 0 => r
  | n + 1 => (r.answerHeld 0 r.editor.answer).answerOldest n

/-- Answers the oldest `n` calls that are held back, and goes on. -/
def release (r : Run) (n : Nat) : Run × List Effect := (r.answerOldest n).settle

end Session.Run

end Considerate
