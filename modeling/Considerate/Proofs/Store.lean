import Considerate.Store

namespace Considerate

def Change.isOfDiagnostics : Change → Bool
  | .record _ => false
  | _ => true

namespace Store

variable (s : Store) (u : Url)

theorem get?_change_ne {u v : Url} (h : v ≠ u) (c : Change) :
    (s.change u c).1.get? v = s.get? v := by
  cases c with
  | replace ds fixes => exact Keyed.get?_set_ne _ h _
  | clear =>
    simp only [change]
    split
    · rfl
    · exact Keyed.get?_set_ne _ h _
  | remove removed wholeFamily shiftFrom => exact Keyed.get?_set_ne _ h _
  | purge => exact Keyed.get?_erase_ne _ h
  | record a =>
    simp only [change]
    split
    · rfl
    · exact Keyed.get?_set_ne _ h _

@[simp] theorem findings_set_self (f : Findings) : findings (s.set u f) u = f := by
  simp [findings]

@[simp] theorem findings_replace (ds : List Diagnostic) (fixes : Fixes) :
    (s.change u (.replace ds fixes)).1.findings u =
      { s.findings u with diagnostics := ds, fixes } :=
  findings_set_self ..

@[simp] theorem shown_replace (ds : List Diagnostic) (fixes : Fixes) :
    (s.change u (.replace ds fixes)).2 = some ds := rfl

@[simp] theorem findings_clear : (s.change u .clear).1.findings u = {} := by
  cases h : s.get? u with
  | none => simp [change, findings, h]
  | some f => simp [change, h]

@[simp] theorem shown_clear : (s.change u .clear).2 = some [] := by
  cases h : s.get? u <;> simp [change, h]

@[simp] theorem findings_purge : (s.change u .purge).1.findings u = {} := by
  simp [change, findings]

@[simp] theorem shown_purge : (s.change u .purge).2 = some [] := rfl

@[simp] theorem diagnostics_record (a : Artifact) :
    ((s.change u (.record a)).1.findings u).diagnostics = (s.findings u).diagnostics := by
  cases h : s.get? u <;> simp [change, findings, h]

@[simp] theorem fixes_record (a : Artifact) :
    ((s.change u (.record a)).1.findings u).fixes = (s.findings u).fixes := by
  cases h : s.get? u <;> simp [change, findings, h]

@[simp] theorem shown_record (a : Artifact) : (s.change u (.record a)).2 = none := by
  cases h : s.get? u <;> simp [change, h]

theorem findings_change_ne {u v : Url} (h : v ≠ u) (c : Change) :
    findings (s.change u c).1 v = s.findings v := by
  simp only [findings, s.get?_change_ne h c]

theorem isSome_shown (c : Change) : (s.change u c).2.isSome = c.isOfDiagnostics := by
  cases c with
  | clear => simp [Change.isOfDiagnostics]
  | record a => simp [Change.isOfDiagnostics]
  | replace | remove | purge => rfl

theorem diagnostics_of_shown {c : Change} {ds : List Diagnostic}
    (h : (s.change u c).2 = some ds) : ((s.change u c).1.findings u).diagnostics = ds := by
  cases c with
  | replace | remove =>
    cases h
    simp [change]
  | clear =>
    rw [shown_clear, Option.some.injEq] at h
    subst h
    simp
  | purge =>
    cases h
    simp
  | record a =>
    rw [shown_record] at h
    cases h

/-- A change that shows nothing leaves the diagnostics as they were, and makes no entry. -/
theorem kept_of_not_shown {c : Change} (h : (s.change u c).2 = none) :
    ((s.change u c).1.findings u).diagnostics = (s.findings u).diagnostics ∧
      (s.get? u = none → (s.change u c).1.get? u = none) := by
  cases c with
  | record a =>
    refine ⟨s.diagnostics_record u a, ?_⟩
    intro hn
    simp only [change, hn]
  | clear =>
    rw [shown_clear] at h
    cases h
  | replace | remove | purge => cases h

end Store

end Considerate
