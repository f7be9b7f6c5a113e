import Considerate.Json.Decode

namespace Considerate.Decode

abbrev Check := Json → Option DecodeError

def must {α : Type} (d : Decoder α) : Check := fun j =>
  match d j with
  | .ok _ => none
  | .error e => some e

def any : Decoder Json := .ok

def keepChecked (checks : List (String × Check)) (kept : List (String × Json)) :
    String × Json → Except DecodeError (List (String × Json))
  | (name, v) =>
    match checks.find? fun c => c.1 = name with
    | none => .ok kept
    | some (_, c) =>
      match c v with
      | none => .ok (kept ++ [(name, v)])
      | some e => .error e

/-- The fields of a record for which there are checks. The checks stand in the order of the fields. -/
def fields (name : String) (required : Nat) (checks : List (String × Check)) :
    Decoder (List (String × Json)) :=
  record ⟨name, checks.map Prod.fst, required⟩ [] (keepChecked checks)

def objectFields (name : String) (checks : List (String × Check)) :
    Decoder (List (String × Json))
  | .obj fs => fs.foldlM (keepChecked checks) []
  | j => .error (.invalidType j name)

def objectNamed (name : String) : Decoder Unit
  | .obj _ => .ok ()
  | j => .error (.invalidType j name)

def need {α : Type} (name : String) (d : Decoder α) (fs : List (String × Json)) :
    Except DecodeError α :=
  match fs.find? fun f => f.1 = name with
  | none => .error (.missingField name)
  | some (_, v) => d v

/-- A field that may be absent or null. -/
def want {α : Type} (name : String) (d : Decoder α) (fs : List (String × Json)) :
    Except DecodeError (Option α) :=
  match fs.find? fun f => f.1 = name with
  | none => .ok none
  | some (_, v) => option d v

end Considerate.Decode
