import Considerate.Json.Decode
import Considerate.Url.Parse

namespace Considerate.Url

def toJson (u : Url) : Json := .str u.text

def decode : Decode.Decoder Url
  | .str s =>
    match parse s with
    | .ok u => .ok u
    | .error e => .error (.invalidText e.message s)
  | j => .error (.invalidType j "a string representing an URL")

end Considerate.Url
