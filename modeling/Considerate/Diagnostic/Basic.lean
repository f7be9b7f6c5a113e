import Considerate.Json.Basic
import Considerate.Range
import Considerate.Url.Basic

namespace Considerate

/-- What tells one diagnostic from another. -/
inductive Code where
  | text (s : String)
  | number (n : Int32)
  deriving DecidableEq, Repr

/-- Another place that has to do with a diagnostic. -/
structure Related where
  url : Url
  range : Range
  message : String
  deriving DecidableEq, Repr

structure Diagnostic where
  range : Range
  message : String
  severity : Option Int32 := none
  code : Option Code := none
  codeUrl : Option Url := none
  source : Option String := none
  related : Option (List Related) := none
  tags : Option (List Int32) := none
  data : Option Json := none

namespace Diagnostic

def severityError : Int32 := 1

def severityWarning : Int32 := 2

def codeText (d : Diagnostic) : Option String :=
  match d.code with
  | some (.text s) => some s
  | _ => none

/-- The family of a code: what stands before its first dash. -/
def family (code : String) : List Char := code.toList.takeWhile (· ≠ '-')

def hasCode (wholeFamily : Bool) (code : String) (d : Diagnostic) : Bool :=
  match d.codeText with
  | none => false
  | some c => if wholeFamily then family c = family code else c = code

/-- The diagnostic one line further down, if it starts at line `n` or below. -/
def shiftFrom (n : UInt32) (d : Diagnostic) : Diagnostic :=
  if n ≤ d.range.start.line then { d with range := d.range.nextLine } else d

end Diagnostic

end Considerate
