namespace Considerate

structure Turns where
  holder : Option Nat := none
  waiting : List Nat := []
  deriving DecidableEq, Repr

namespace Turns

def isHeldBy (t : Turns) (id : Nat) : Bool := t.holder = some id

/-- Asks for the turn: who does not get it waits. -/
def request (t : Turns) (id : Nat) : Turns :=
  match t.holder with
  | none => { t with holder := some id }
  | some _ =>
    if t.isHeldBy id || t.waiting.contains id then t
    else { t with waiting := t.waiting ++ [id] }

/-- Ends the turn: the first who waits is the next holder. -/
def pass (t : Turns) : Turns :=
  match t.waiting with
  | [] => {}
  | id :: ids => ⟨some id, ids⟩

def leave (t : Turns) (id : Nat) : Turns :=
  if t.isHeldBy id then t.pass else { t with waiting := t.waiting.filter (· ≠ id) }

def newHolder (old new : Turns) : List Nat :=
  if new.holder = old.holder then [] else new.holder.toList

theorem holder_pass (t : Turns) : t.pass.holder = t.waiting.head? := by
  cases h : t.waiting <;> simp [pass, h]

theorem request_isHeldBy {t : Turns} (h : t.holder = none) (id : Nat) :
    (t.request id).isHeldBy id := by
  simp [request, isHeldBy, h]

end Turns

end Considerate
