import Considerate.Session.Call
import Considerate.Schedule.Basic
import Considerate.Store

namespace Considerate

/-- A pass that does a request, on the document as it was when the pass began. -/
structure Pass where
  request : Request
  ticket : Nat
  document : Option Document
  number : UInt64 := 0
  deriving DecidableEq, Repr

namespace Pass

def url (p : Pass) : Url := p.request.url

/-- What the editor is told when the pass reaches a phase. No time is measured. -/
def status (p : Pass) (phase : Phase) : Status where
  id := p.number
  phase := phase
  documents := [p.url]
  fileName := some p.url.name
  elapsed := if phase = .stop then some 0 else none

end Pass

/-- What is stored for a document, as far as it has been read. -/
structure View where
  contains : Bool := false
  findings : Findings := {}

/-- What is read from the store under one turn. -/
inductive Part where
  | presence
  | diagnostics
  | fixes
  | artifact
  deriving DecidableEq, Repr

/-- What a task gives when it ends. -/
inductive Value where
  | nothing
  | edits (es : List Edit)
  | settings (s : Settings)
  | applied (b : Bool)
  | view (v : View)

/-- How a task goes on when there is nothing that it needs to know. -/
inductive Plan where
  | announce (p : Pass)
  | configure (p : Pass)
  | conclude (p : Pass) (r : Report)
  | close (p : Pass) (edits : List Edit)
  | release (p : Pass) (edits : List Edit)
  | finish (v : Value)

/-- Who wants settings. -/
inductive Reader where
  | pass (p : Pass)
  | caller

/-- What a task does in the store when its turn has come. -/
inductive Access where
  | change (url : Url) (c : Change) (next : Plan)
  | fix (url : Url) (code value : String)
  | read (url : Url) (parts : List Part) (view : View)

/-- How a task goes on when its call on the editor returns. -/
inductive Return where
  | shown (next : Plan)
  | told (next : Plan)
  | configured (cell : Nat) (reader : Reader)
  | applied (url : Url) (d : Diagnostic)

inductive Job where
  | validate (r : Request)
  | close (url : Url)
  | settings (url : Url)
  | quickFix (url : Url) (code value : String)
  | read (url : Url) (parts : List Part)
  | change (url : Url) (c : Change)

inductive Stage where
  | fresh (j : Job)
  | store (a : Access)
  | calling (c : Call) (next : Return)
  | back (next : Return) (a : Answer)
  | cell (url : Url) (n : Nat) (reader : Reader)
  | linting (p : Pass) (s : Settings)
  | linted (p : Pass) (s : Settings)
  | done (v : Value)

namespace Plan

def pass? : Plan → Option Pass
  | announce p | configure p | conclude p _ | close p _ | release p _ => some p
  | finish _ => none

end Plan

namespace Stage

def pass? : Stage → Option Pass
  | store (.change _ _ next) | calling _ (.shown next) | calling _ (.told next)
  | back (.shown next) _ | back (.told next) _ => next.pass?
  | calling _ (.configured _ (.pass p)) | back (.configured _ (.pass p)) _
  | cell _ _ (.pass p) | linting p _ | linted p _ => some p
  | _ => none

/-- The cell that a task asks the editor for, or waits for. -/
def cell? : Stage → Option Nat
  | cell _ n _ | calling _ (.configured n _) | back (.configured n _) _ => some n
  | _ => none

end Stage

end Considerate
