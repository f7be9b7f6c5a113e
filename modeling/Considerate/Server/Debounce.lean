import Considerate.Url.Basic

namespace Considerate

/-- A lint that is due at a time, for a document at a version. -/
structure Delay where
  due : Nat
  url : Url
  version : Int32
  deriving DecidableEq, Repr

namespace Delay

/-- How long a change is held back, in milliseconds. -/
def length : Nat := 300

def starting (now : Nat) (url : Url) (version : Int32) : Delay := ⟨now + length, url, version⟩

def isOver (now : Nat) (d : Delay) : Bool := d.due ≤ now

end Delay

end Considerate
