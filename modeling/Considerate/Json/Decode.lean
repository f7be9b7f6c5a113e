import Considerate.Decimal.Shortest
import Considerate.Json.Basic
import Considerate.Text.Escape

namespace Considerate

/-- Why a value does not have the expected shape. -/
inductive DecodeError where
  | invalidType (found : Json) (expected : String)
  | invalidValue (found : Json) (expected : String)
  | invalidLength (length : Nat) (expected : String)
  | unknownVariant (found : String) (expected : List String)
  | missingField (name : String)
  | invalidText (reason : String) (found : String)
  | unmatched (what : String)

/-- What a value is called in a message. -/
def Json.kind : Json → String
  | .null => "null"
  | .bool b => "boolean `" ++ (if b then "true" else "false") ++ "`"
  | .int n => "integer `" ++ toString n ++ "`"
  | .float f => "floating point `" ++ Decimal.text f ++ "`"
  | .str s => "string " ++ Text.escaped s
  | .arr _ => "sequence"
  | .obj _ => "map"

def choices (names : List String) : String :=
  let quoted := names.map fun n => "`" ++ n ++ "`"
  match quoted with
  | [] => "there are no variants"
  | [a] => "expected " ++ a
  | [a, b] => "expected " ++ a ++ " or " ++ b
  | _ => "expected one of " ++ ", ".intercalate quoted

def DecodeError.message : DecodeError → String
  | .invalidType found expected => "invalid type: " ++ found.kind ++ ", expected " ++ expected
  | .invalidValue found expected => "invalid value: " ++ found.kind ++ ", expected " ++ expected
  | .invalidLength n expected => "invalid length " ++ toString n ++ ", expected " ++ expected
  | .unknownVariant found names => "unknown variant `" ++ found ++ "`, " ++ choices names
  | .missingField name => "missing field `" ++ name ++ "`"
  | .invalidText reason found => reason ++ ": " ++ Text.escaped found
  | .unmatched what => "data did not match any variant of untagged enum " ++ what

namespace Decode

abbrev Decoder (α : Type) := Json → Except DecodeError α

def string : Decoder String
  | .str s => .ok s
  | j => .error (.invalidType j "a string")

def bool : Decoder Bool
  | .bool b => .ok b
  | j => .error (.invalidType j "a boolean")

/-- A whole number from `low` to `high`; `name` is what such a number is called. -/
def integer (low high : Int) (name : String) : Decoder Int
  | .int n => if low ≤ n ∧ n ≤ high then .ok n else .error (.invalidValue (.int n) name)
  | j => .error (.invalidType j name)

def uint32 : Decoder UInt32 := fun j => (integer 0 0xFFFFFFFF "u32" j).map fun n => .ofNat n.toNat

def uint64 : Decoder UInt64 := fun j =>
  (integer 0 0xFFFFFFFFFFFFFFFF "u64" j).map fun n => .ofNat n.toNat

def int32 : Decoder Int32 := fun j => (integer (-0x80000000) 0x7FFFFFFF "i32" j).map Int32.ofInt

def option {α : Type} (d : Decoder α) : Decoder (Option α)
  | .null => .ok none
  | j => (d j).map some

def list {α : Type} (d : Decoder α) : Decoder (List α)
  | .arr items => items.mapM d
  | j => .error (.invalidType j "a sequence")

/-- One of several named values: its name, or an object whose only key is the name. -/
def variant {α : Type} (values : List α) (name : α → String) : Decoder α
  | .str s => pick s
  | .obj [(s, v)] => do
    let a ← pick s
    match v with
    | .null => .ok a
    | v => .error (.invalidType v "unit")
  | .obj fields => .error (.invalidValue (.obj fields) "map with a single key")
  | j => .error (.invalidType j "string or map")
where
  pick (s : String) : Except DecodeError α :=
    match values.find? fun a => name a = s with
    | some a => .ok a
    | none => .error (.unknownVariant s (values.map name))

/-- What a record is called, the names of its fields, and how many of them an array has to give. -/
structure Shape where
  name : String
  fields : List String
  required : Nat

/-- How many fields a record has, in words. -/
def Shape.extent (s : Shape) : String :=
  s.name ++ " with " ++ toString s.fields.length ++
    (if s.fields.length = 1 then " element" else " elements")

def record {σ : Type} (s : Shape) (init : σ) (put : σ → String × Json → Except DecodeError σ) :
    Decoder σ
  | .obj fields => fields.foldlM put init
  | .arr items => do
    let r ← (s.fields.zip items).foldlM put init
    if items.length < s.required then .error (.invalidLength items.length s.extent)
    else if s.fields.length < items.length then
      .error (.invalidLength items.length "fewer elements in array")
    else .ok r
  | j => .error (.invalidType j s.name)

def required {α : Type} (name : String) : Option α → Except DecodeError α
  | some a => .ok a
  | none => .error (.missingField name)

end Decode

end Considerate
