import Considerate.Proofs.Store
import Mathlib.Data.List.Nodup

namespace Considerate

theorem Diagnostic.codeAt_inj {m n : Nat} (h : codeAt m = codeAt n) : m = n := by
  have hr : (m + 1).repr = (n + 1).repr := (String.append_right_inj _).mp h
  rw [Nat.repr_eq_ofList_toDigits, Nat.repr_eq_ofList_toDigits, String.ofList_inj] at hr
  have hd := congrArg (fun ds => Nat.ofDigitChars 10 ds 0) hr
  simpa using hd

def Distinct (ds : List Diagnostic) : Prop := (ds.map Diagnostic.codeText).Nodup

theorem Distinct.nil : Distinct [] := List.nodup_nil

theorem Distinct.without {ds : List Diagnostic} (h : Distinct ds) (removed : List Diagnostic)
    (wholeFamily : Bool) : Distinct (Findings.without removed wholeFamily ds) :=
  List.Nodup.sublist (List.Sublist.map _ List.filter_sublist) h

theorem Distinct.eq_of_codeText {ds : List Diagnostic} (h : Distinct ds) {x y : Diagnostic}
    (hx : x ∈ ds) (hy : y ∈ ds) (he : x.codeText = y.codeText) : x = y :=
  List.inj_on_of_nodup_map h hx hy he

theorem distinct_ofMessages (filetype : Filetype) (settings : Settings) (ms : List Message) :
    Distinct (Report.ofMessages filetype settings ms).diagnostics := by
  have hc : (ms.mapIdx Diagnostic.ofMessage).map Diagnostic.codeText =
      (List.range ms.length).map fun n => some (Diagnostic.codeAt n) := by
    apply List.ext_getElem
    · simp
    · intro n hl hr
      simp [Diagnostic.ofMessage, Diagnostic.codeText]
  unfold Distinct Report.ofMessages
  rw [hc]
  apply List.nodup_range.map
  intro m n h
  exact Diagnostic.codeAt_inj (Option.some.inj h)

/-- What linting finds has different codes. -/
theorem distinct_of_lint {u : Url} {document : Option Document} {settings : Settings} {r : Report}
    (h : lint u document settings = .ok r) : Distinct r.diagnostics := by
  unfold lint at h
  cases document with
  | none => cases h
  | some d =>
    simp only at h
    split at h
    · cases h
    · cases h
      exact distinct_ofMessages ..

theorem Store.find_eq_some_iff {s : Store} {u : Url} (h : Distinct (s.findings u).diagnostics)
    (code : String) (x : Diagnostic) :
    s.find u code = some x ↔ x ∈ (s.findings u).diagnostics ∧ x.codeText = some code := by
  constructor
  · intro hx
    exact ⟨List.mem_of_find?_eq_some hx, by simpa using List.find?_some hx⟩
  · rintro ⟨hm, hc⟩
    cases hf : s.find u code with
    | none =>
      have hn := List.find?_eq_none.mp hf x hm
      simp [hc] at hn
    | some y =>
      have hy : y.codeText = some code := by simpa using List.find?_some hf
      rw [h.eq_of_codeText hm (List.mem_of_find?_eq_some hf) (hc.trans hy.symm)]

end Considerate
