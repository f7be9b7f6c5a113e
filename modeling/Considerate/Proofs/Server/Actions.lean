import Considerate.Proofs.Server.Tasks
import Considerate.Proofs.Session.Texts
import Considerate.Server.Receive

namespace Considerate

open Protocol (RequestId)

/-- There is a position that lies in both ranges. -/
def Range.Shares (a b : Range) : Prop :=
  ∃ p : Position, (a.start.le p = true ∧ p.le a.stop = true) ∧
    b.start.le p = true ∧ p.le b.stop = true

namespace Findings

def fixesOf (f : Findings) (d : Diagnostic) : List QuickFix := (d.codeText.bind f.fixes.get?).getD []

def pairsAt (f : Findings) (range : Range) : List (Diagnostic × QuickFix) :=
  (f.diagnostics.filter fun d => d.range.overlaps range).flatMap fun d =>
    (f.fixesOf d).map fun fix => (d, fix)

end Findings

namespace CodeAction

variable {u : Url} {range : Range} {f : Findings} {a : CodeAction}

theorem mem_offered (h : a ∈ offered u range f) :
    a.url = u ∧ a.diagnostic ∈ f.diagnostics ∧ a.diagnostic.codeText = some a.code := by
  obtain ⟨d, hd, ha⟩ := List.mem_flatMap.mp h
  unfold ofDiagnostic at ha
  split at ha
  · split at ha
    · cases ha
    · rename_i code coded
      obtain ⟨fix, _, rfl⟩ := List.mem_map.mp ha
      exact ⟨rfl, hd, coded⟩
  · cases ha

theorem pairs_offered (u : Url) (range : Range) (f : Findings) :
    (offered u range f).map (fun a => (a.diagnostic, a.fix)) = f.pairsAt range := by
  unfold offered Findings.pairsAt
  induction f.diagnostics with
  | nil => rfl
  | cons d ds ih =>
    rw [List.flatMap_cons, List.map_append, ih, List.filter_cons, ofDiagnostic]
    split
    · rw [List.flatMap_cons, Findings.fixesOf]
      cases d.codeText with
      | none => rfl
      | some code => simp [Function.comp_def]
    · rfl

end CodeAction

namespace Server

open Session (after)

variable {s : Server} {rid : RequestId}

/-- A file, written as a URL is read again. -/
def page : Url where
  scheme := "file"
  authority := some { host := "" }
  path := .segments ["a.txt"]

end Server

end Considerate
