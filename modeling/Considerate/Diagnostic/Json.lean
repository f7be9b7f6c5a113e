import Considerate.Diagnostic.Basic
import Considerate.Url.Json

namespace Considerate

open Decode

namespace Code

def toJson : Code → Json
  | text s => .str s
  | number n => .int n.toInt

def decode : Decoder Code
  | .str s => .ok (text s)
  | j =>
    match int32 j with
    | .ok n => .ok (number n)
    | .error _ => .error (.unmatched "NumberOrString")

end Code

namespace Related

def toJson (r : Related) : Json :=
  .obj [("location", .obj [("range", r.range.toJson), ("uri", r.url.toJson)]),
    ("message", .str r.message)]

/-- The fields of a place that have been read. -/
structure Partial where
  url : Option Url := none
  range : Option Range := none
  place : Option (Url × Range) := none
  message : Option String := none

def putPlace (r : Partial) : String × Json → Except DecodeError Partial
  | ("uri", v) => (Url.decode v).map fun x => { r with url := some x }
  | ("range", v) => (Range.decode v).map fun x => { r with range := some x }
  | _ => .ok r

def decodePlace : Decoder (Url × Range) := fun j => do
  let r ← record ⟨"struct Location", ["uri", "range"], 2⟩ {} putPlace j
  return (← required "uri" r.url, ← required "range" r.range)

def put (r : Partial) : String × Json → Except DecodeError Partial
  | ("location", v) => (decodePlace v).map fun x => { r with place := some x }
  | ("message", v) => (string v).map fun x => { r with message := some x }
  | _ => .ok r

def decode : Decoder Related := fun j => do
  let r ← record ⟨"struct DiagnosticRelatedInformation", ["location", "message"], 2⟩ {} put j
  let (url, range) ← required "location" r.place
  return { url, range, message := ← required "message" r.message }

end Related

namespace Diagnostic

def toJson (d : Diagnostic) : Json :=
  .obj (
    optionalField "code" Code.toJson d.code ++
    optionalField "codeDescription" (fun u : Url => .obj [("href", u.toJson)]) d.codeUrl ++
    optionalField "data" id d.data ++
    [("message", .str d.message), ("range", d.range.toJson)] ++
    optionalField "relatedInformation" (fun rs => .arr (rs.map Related.toJson)) d.related ++
    optionalField "severity" (fun n : Int32 => .int n.toInt) d.severity ++
    optionalField "source" .str d.source ++
    optionalField "tags" (fun ts : List Int32 => .arr (ts.map fun t => .int t.toInt)) d.tags)

def putHref (u : Option Url) : String × Json → Except DecodeError (Option Url)
  | ("href", v) => (Url.decode v).map some
  | _ => .ok u

def decodeHref : Decoder Url := fun j => do
  required "href" (← record ⟨"struct CodeDescription", ["href"], 1⟩ none putHref j)

/-- The fields of a diagnostic that have been read. -/
structure Partial where
  range : Option Range := none
  message : Option String := none
  severity : Option Int32 := none
  code : Option Code := none
  codeUrl : Option Url := none
  source : Option String := none
  related : Option (List Related) := none
  tags : Option (List Int32) := none
  data : Option Json := none

def put (d : Partial) : String × Json → Except DecodeError Partial
  | ("range", v) => (Range.decode v).map fun x => { d with range := some x }
  | ("severity", v) => (option int32 v).map fun x => { d with severity := x }
  | ("code", v) => (option Code.decode v).map fun x => { d with code := x }
  | ("codeDescription", v) => (option decodeHref v).map fun x => { d with codeUrl := x }
  | ("source", v) => (option string v).map fun x => { d with source := x }
  | ("message", v) => (string v).map fun x => { d with message := some x }
  | ("relatedInformation", v) =>
    (option (Decode.list Related.decode) v).map fun x => { d with related := x }
  | ("tags", v) => (option (Decode.list int32) v).map fun x => { d with tags := x }
  | ("data", v) => .ok { d with data := if v.isNull then none else some v }
  | _ => .ok d

def shape : Shape :=
  ⟨"struct Diagnostic", ["range", "severity", "code", "codeDescription", "source", "message",
    "relatedInformation", "tags", "data"], 9⟩

def decode : Decoder Diagnostic := fun j => do
  let d ← record shape {} put j
  return {
    range := ← required "range" d.range
    message := ← required "message" d.message
    severity := d.severity, code := d.code, codeUrl := d.codeUrl, source := d.source
    related := d.related, tags := d.tags, data := d.data }

end Diagnostic

end Considerate
