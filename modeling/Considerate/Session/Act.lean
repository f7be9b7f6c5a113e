import Considerate.Session.Advance

namespace Considerate

namespace Session

inductive Action where
  | call (id : Nat) (job : Job)
  | advance (id : Nat)
  | answer (id : Nat) (a : Answer)
  | linted (id : Nat)
  | drop (id : Nat)
  | openDocument (url : Url) (d : Document)
  | changeText (url : Url) (text : String) (version : Int32)
  | invalidate (url : Option Url)
  | reload (files : Files) (root : String)

/-- What is to be seen of an action. -/
inductive Effect where
  | called (id : Nat) (c : Call)
  | linting (id : Nat)
  | woken (id : Nat)
  | finished (id : Nat) (v : Value)

/-- The tasks that can go on since `old` because of the store or of a cell: the new holders of
turns, and all who waited for a cell that has been filled. -/
def wokenSince (old new : Session) : List Nat :=
  Turns.newHolder old.turns new.turns ++
    (old.cells.all.zip new.cells.all).flatMap fun (a, b) =>
      if a.value.isNone && b.value.isSome then a.turns.waiting
      else Turns.newHolder a.turns b.turns

def seen (id : Nat) : Stage → List Effect
  | .calling c _ => [.called id c]
  | .linting _ _ => [.linting id]
  | .done v => [.finished id v]
  | _ => []

/-- Puts a task at a stage; one that is done is no task any more. -/
def put (s : Session) (id : Nat) : Stage → Session
  | .done _ => { s with tasks := s.tasks.erase id }
  | stage => { s with tasks := s.tasks.set id stage }

def canGoOn (s : Session) (id : Nat) : Stage → Bool
  | .fresh _ | .back _ _ | .linted _ _ => true
  | .store _ => !s.turns.waiting.contains id
  | .cell _ n _ => !(s.cells.get n).turns.waiting.contains id
  | .calling _ _ | .linting _ _ | .done _ => false

/-- Takes from a task that is dropped what it has or waits for. -/
def letGo (s : Session) (id : Nat) (stage : Stage) : Session :=
  let s := { s with turns := s.turns.leave id }
  let s :=
    match stage.cell? with
    | none => s
    | some n =>
      let cell := s.cells.get n
      { s with cells := s.cells.set n { cell with turns := cell.turns.leave id } }
  match stage.pass? with
  | none => s
  | some p => { s with schedule := s.schedule.drop p.url p.ticket }

def act (s : Session) : Action → Session × List Effect
  | .call id job =>
    if s.tasks.contains id then (s, []) else (s.put id (.fresh job), [.woken id])
  | .advance id =>
    match s.tasks.get? id with
    | none => (s, [])
    | some stage =>
      if s.canGoOn id stage then
        let (t, next) := s.advance id stage
        (t.put id next, ((wokenSince s t).filter (· ≠ id)).map .woken ++ seen id next)
      else (s, [])
  | .answer id a =>
    match s.tasks.get? id with
    | some (.calling _ next) => (s.put id (.back next a), [.woken id])
    | _ => (s, [])
  | .linted id =>
    match s.tasks.get? id with
    | some (.linting p settings) => (s.put id (.linted p settings), [.woken id])
    | _ => (s, [])
  | .drop id =>
    match s.tasks.get? id with
    | none => (s, [])
    | some stage =>
      let t := { s with tasks := s.tasks.erase id }.letGo id stage
      (t, (wokenSince s t).map .woken)
  | .openDocument u d => (s.openDocument u d, [])
  | .changeText u text version => ((s.changeText u text version).getD s, [])
  | .invalidate u => (s.invalidate u, [])
  | .reload files root => (s.reload files root, [])

end Session

end Considerate
