import Considerate.Lint

namespace Considerate

/-- What is stored for a document. -/
structure Findings where
  diagnostics : List Diagnostic := []
  fixes : Fixes := {}
  artifact : Option Artifact := none

abbrev Store := Keyed Url Findings

inductive Change where
  | replace (diagnostics : List Diagnostic) (fixes : Fixes)
  | clear
  /-- Takes diagnostics out by their codes, or the families of those, and moves those that start
  at a line or below it down by one. -/
  | remove (diagnostics : List Diagnostic) (wholeFamily : Bool) (shiftFrom : Option UInt32)
  | purge
  | record (artifact : Artifact)

namespace Findings

/-- The diagnostics that stay when those with the codes of `removed` go. -/
def without (removed : List Diagnostic) (wholeFamily : Bool) (ds : List Diagnostic) :
    List Diagnostic :=
  let codes := removed.filterMap Diagnostic.codeText
  ds.filter fun d => !codes.any fun c => d.hasCode wholeFamily c

/-- Whether some diagnostic has the code. -/
def names (ds : List Diagnostic) (code : String) : Bool := ds.any fun d => d.codeText = some code

/-- The findings after taking diagnostics out: quick fixes stay for the codes that stay. -/
def remove (f : Findings) (removed : List Diagnostic) (wholeFamily : Bool)
    (shiftFrom : Option UInt32) : Findings :=
  let kept := without removed wholeFamily f.diagnostics
  let moved :=
    match shiftFrom with
    | none => kept
    | some n => kept.map (Diagnostic.shiftFrom n)
  { f with
    diagnostics := moved
    fixes := ⟨f.fixes.entries.filter fun e => names moved e.1⟩ }

end Findings

namespace Store

/-- What is stored for a document, or nothing at all. -/
def findings (s : Store) (u : Url) : Findings := (s.get? u).getD {}

def find (s : Store) (u : Url) (code : String) : Option Diagnostic :=
  (s.findings u).diagnostics.find? fun d => d.codeText = some code

/-- Changes what is stored for `u`: the store then, and the diagnostics to show if they may have
changed. -/
def change (s : Store) (u : Url) : Change → Store × Option (List Diagnostic)
  | .replace ds fixes =>
    (s.set u { s.findings u with diagnostics := ds, fixes }, some ds)
  | .clear =>
    match s.get? u with
    | none => (s, some [])
    | some _ => (s.set u {}, some [])
  | .remove removed wholeFamily shiftFrom =>
    let f := (s.findings u).remove removed wholeFamily shiftFrom
    (s.set u f, some f.diagnostics)
  | .purge => (s.erase u, some [])
  | .record artifact =>
    match s.get? u with
    | none => (s, none)
    | some f => (s.set u { f with artifact := some artifact }, none)

end Store

end Considerate
