namespace Considerate

/-- A line and a column, both from 1; either may be unknown. -/
structure Point where
  line : Option UInt32 := none
  column : Option UInt32 := none
  deriving DecidableEq, Repr

/-- The stretch of a message; the end column is exclusive. -/
structure Location where
  start : Point := {}
  stop : Point := {}
  deriving DecidableEq, Repr

/-- One finding. `line` and `column` repeat the start for readers that need no stretch. -/
structure Message where
  reason : String
  ruleId : String
  fatal : Option Bool := none
  line : Option UInt32 := none
  column : Option UInt32 := none
  location : Location := {}
  deriving DecidableEq, Repr

def Message.spanning (ruleId reason : String) (start stop : Point) : Message :=
  { reason, ruleId, line := start.line, column := start.column, location := ⟨start, stop⟩ }

def Message.isError (m : Message) : Bool := m.fatal = some true

end Considerate
