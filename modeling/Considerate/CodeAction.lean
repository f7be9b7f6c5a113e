import Considerate.Session.Stage

namespace Considerate

structure CodeAction where
  url : Url
  diagnostic : Diagnostic
  code : String
  fix : QuickFix

namespace CodeAction

/-- The command that replaces the range of a diagnostic. -/
def quickFixCommand : String := "kindlint.quickFix"

def quickFixTitle : String := "Quick fix"

def quickFixKind : String := "quickfix"

def ofDiagnostic (url : Url) (range : Range) (fixes : Fixes) (d : Diagnostic) :
    List CodeAction :=
  if d.range.overlaps range then
    match d.codeText with
    | none => []
    | some code => ((fixes.get? code).getD []).map fun fix => ⟨url, d, code, fix⟩
  else []

/-- The actions for the diagnostics at a range, in their order. -/
def offered (url : Url) (range : Range) (f : Findings) : List CodeAction :=
  f.diagnostics.flatMap (ofDiagnostic url range f.fixes)

end CodeAction

end Considerate
