import Considerate.Json.Decode
import Considerate.Settings.Basic

namespace Considerate.Settings

open Decode

def toJson (s : Settings) : Json :=
  .obj [
    ("allow", .arr (s.allow.map .str)),
    ("deny", .arr (s.deny.map .str)),
    ("noBinary", .bool s.noBinary),
    ("profanitySureness", .str s.sureness.name),
    ("strategy", .str s.strategy.name)]

def shape : Shape :=
  ⟨"struct Settings", ["allow", "deny", "noBinary", "profanitySureness", "strategy"], 0⟩

/-- Takes one field; what is not a setting is passed over. -/
def put (s : Settings) : String × Json → Except DecodeError Settings
  | ("allow", v) => (Decode.list string v).map fun x => { s with allow := x }
  | ("deny", v) => (Decode.list string v).map fun x => { s with deny := x }
  | ("noBinary", v) => (bool v).map fun x => { s with noBinary := x }
  | ("profanitySureness", v) =>
    (variant Sureness.all Sureness.name v).map fun x => { s with sureness := x }
  | ("strategy", v) => (variant Strategy.all Strategy.name v).map fun x => { s with strategy := x }
  | _ => .ok s

/-- Settings whose absent fields have their usual values. -/
def decode : Decoder Settings := record shape {} put

end Considerate.Settings
