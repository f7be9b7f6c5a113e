namespace Considerate

/-- How sure it is that a word is profane, or has to be for a report. -/
inductive Sureness where
  | unlikely
  | maybe
  | likely
  deriving DecidableEq, Repr

namespace Sureness

def all : List Sureness := [.unlikely, .maybe, .likely]

def rank : Sureness → Nat
  | .unlikely => 0
  | .maybe => 1
  | .likely => 2

def name : Sureness → String
  | .unlikely => "unlikely"
  | .maybe => "maybe"
  | .likely => "likely"

end Sureness

/-- When the editor's document is checked again. -/
inductive Strategy where
  | onType
  | onSave
  deriving DecidableEq, Repr

namespace Strategy

def all : List Strategy := [.onType, .onSave]

def name : Strategy → String
  | .onType => "onType"
  | .onSave => "onSave"

end Strategy

structure Settings where
  allow : List String := []
  deny : List String := []
  noBinary : Bool := false
  sureness : Sureness := .unlikely
  strategy : Strategy := .onType
  deriving DecidableEq, Repr

/-- Settings that name rules to leave out and rules to keep contradict each other. -/
def Settings.conflicting (s : Settings) : Bool := !s.allow.isEmpty && !s.deny.isEmpty

/-- Whether the rule lists leave rule `id` in. -/
def Settings.admits (s : Settings) (id : String) : Bool :=
  !s.allow.contains id && (s.deny.isEmpty || s.deny.contains id)

end Considerate
