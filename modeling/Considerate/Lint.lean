import Considerate.Check
import Considerate.Diagnostic.Basic
import Considerate.Filetype
import Considerate.Keyed
import Considerate.QuickFix
import Considerate.Reason

namespace Considerate

/-- A text document that is open in the editor. -/
structure Document where
  text : String
  version : Int32
  filetype : Filetype
  deriving DecidableEq, Repr

/-- What a document was linted with, and what came of it. -/
structure Artifact where
  filetype : Filetype
  settings : Settings
  messageCount : Nat
  deriving DecidableEq, Repr

/-- The quick fixes for diagnostics, by code. -/
abbrev Fixes := Keyed String (List QuickFix)

structure Report where
  diagnostics : List Diagnostic
  fixes : Fixes
  artifact : Artifact

/-- Why a pass gives no report. -/
inductive LintError where
  | notOpen (url : Url)
  | check (cause : CheckError)
  deriving DecidableEq, Repr

def LintError.message : LintError → String
  | .notOpen url => url.text ++ " is not an open text document"
  | .check cause => cause.message

/-- A number from 1 as one from 0; if neither it nor its substitute is known it is the first. -/
def fromZero (n substitute : Option UInt32) : UInt32 :=
  match n, substitute with
  | some n, m => if n = 0 then fromKnown m else n - 1
  | none, m => fromKnown m
where
  fromKnown : Option UInt32 → UInt32
    | some n => if n = 0 then 0 else n - 1
    | none => 0

def Point.position (p : Point) (m : Message) : Position :=
  ⟨fromZero p.line m.line, fromZero p.column m.column⟩

namespace Diagnostic

def sourceName : String := "kindlint"

/-- The code of the diagnostic at place `index`, which counts from 0. -/
def codeAt (index : Nat) : String := "kindlint-" ++ toString (index + 1)

/-- The diagnostic of the message at place `index`; its suggestions are left out. -/
def ofMessage (index : Nat) (m : Message) : Diagnostic where
  range := ⟨m.location.start.position m, m.location.stop.position m⟩
  message := (Reason.ofText m.reason).statement
  severity := some (if m.isError then severityError else severityWarning)
  code := some (.text (codeAt index))
  source := some sourceName

end Diagnostic

def fixesFor (index : Nat) (m : Message) : Option (String × List QuickFix) :=
  match (Reason.ofText m.reason).suggestions with
  | [] => none
  | values => some (Diagnostic.codeAt index, QuickFix.ofSuggestions values)

namespace Report

def ofMessages (filetype : Filetype) (settings : Settings) (ms : List Message) : Report where
  diagnostics := ms.mapIdx Diagnostic.ofMessage
  fixes := ⟨(ms.mapIdx fixesFor).filterMap id⟩
  artifact := { filetype, settings, messageCount := ms.length }

def editFor (fixes : Fixes) (d : Diagnostic) : Option Edit :=
  match d.codeText.bind fixes.get? with
  | some [fix] => some ⟨d.range, fix.value⟩
  | _ => none

def notBefore (a b : Edit) : Bool := b.range.start.le a.range.start

/-- The edits for the diagnostics that have exactly one quick fix, the last in the document
first. -/
def edits (ds : List Diagnostic) (fixes : Fixes) : List Edit :=
  (ds.filterMap (editFor fixes)).mergeSort notBefore

/-- The edits that format the document. -/
def formatEdits (r : Report) : List Edit := edits r.diagnostics r.fixes

end Report

/-- Lints the document of a URL; none if it is not open. -/
def lint (url : Url) (document : Option Document) (settings : Settings) :
    Except LintError Report :=
  match document with
  | none => .error (.notOpen url)
  | some d =>
    match check settings d.filetype.profile d.text with
    | .error e => .error (.check e)
    | .ok ms => .ok (.ofMessages d.filetype settings ms)

end Considerate
