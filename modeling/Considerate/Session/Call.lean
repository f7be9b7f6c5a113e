import Considerate.Diagnostic.Basic
import Considerate.Settings.Basic
import Considerate.Status

namespace Considerate

inductive Call where
  | publish (url : Url) (diagnostics : List Diagnostic)
  | status (s : Status)
  | configuration (url : Url)
  | applyEdit (url : Url) (edit : Edit)

/-- What the editor says to its calls. A call uses what answers it. -/
structure Answer where
  configuration : Option Json := none
  applied : Bool := true

namespace Call

inductive Kind where
  | publish
  | status
  | configuration
  | applyEdit
  deriving DecidableEq, Repr

def Kind.isQuestion : Kind → Bool
  | .configuration | .applyEdit => true
  | .publish | .status => false

def kind : Call → Kind
  | publish _ _ => .publish
  | status _ => .status
  | configuration _ => .configuration
  | applyEdit _ _ => .applyEdit

def urls : Call → List Url
  | publish u _ => [u]
  | status s => s.documents
  | configuration u => [u]
  | applyEdit u _ => [u]

end Call

end Considerate
