import Considerate.Keyed
import Considerate.Settings.Basic
import Considerate.Turns
import Considerate.Url.Basic

namespace Considerate

structure Cell where
  value : Option Settings := none
  /-- The holder asks the editor; the others wait for its answer. -/
  turns : Turns := {}
  deriving DecidableEq, Repr

structure Cells where
  current : Keyed Url Nat := {}
  all : List Cell := []

namespace Cells

def ofDocument (c : Cells) (u : Url) : Cells × Nat :=
  match c.current.get? u with
  | some n => (c, n)
  | none => (⟨c.current.set u c.all.length, c.all ++ [{}]⟩, c.all.length)

def get (c : Cells) (n : Nat) : Cell := c.all[n]?.getD {}

def set (c : Cells) (n : Nat) (cell : Cell) : Cells := { c with all := c.all.set n cell }

def fill (c : Cells) (n : Nat) (s : Settings) : Cells := c.set n { value := some s }

/-- Takes the cell away from a document, or from all. -/
def forget (c : Cells) : Option Url → Cells
  | some u => { c with current := c.current.erase u }
  | none => { c with current := {} }

end Cells

end Considerate
