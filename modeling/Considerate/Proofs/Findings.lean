import Considerate.Proofs.Codes

namespace Considerate

/-- The quick fix stands at place `j` among those of its diagnostic. -/
structure QuickFix.StandsAt (fix : QuickFix) (j : Nat) : Prop where
  id : fix.id = "fix-" ++ toString j
  label : fix.label = "Change to `" ++ fix.value ++ "`"

/-- The codes of the diagnostics are `kindlint-1` and so on, each for one diagnostic. Quick fixes
stand under such codes, at least one for each, and are numbered in their order. -/
structure Findings.WellFormed (f : Findings) : Prop where
  distinct : Distinct f.diagnostics
  numbered : ∀ d ∈ f.diagnostics, ∃ k ≥ 1, d.codeText = some ("kindlint-" ++ toString k)
  named : ∀ e ∈ f.fixes.entries, ∃ d ∈ f.diagnostics, d.codeText = some e.1
  offered : ∀ e ∈ f.fixes.entries, e.2 ≠ []
  standing : ∀ e ∈ f.fixes.entries, ∀ j (fix : QuickFix), e.2[j]? = some fix → fix.StandsAt j

theorem QuickFix.standsAt_ofSuggestions {values : List String} {j : Nat} {fix : QuickFix}
    (h : (QuickFix.ofSuggestions values)[j]? = some fix) : fix.StandsAt j := by
  rw [ofSuggestions, List.getElem?_mapIdx] at h
  obtain ⟨value, _, rfl⟩ := Option.map_eq_some_iff.mp h
  exact ⟨rfl, rfl⟩

theorem eq_of_fixesFor {k : Nat} {m : Message} {e : String × List QuickFix}
    (h : fixesFor k m = some e) :
    e = (Diagnostic.codeAt k, QuickFix.ofSuggestions (Reason.ofText m.reason).suggestions) ∧
      (Reason.ofText m.reason).suggestions ≠ [] := by
  unfold fixesFor at h
  split at h
  · cases h
  · rename_i hne
    cases h
    exact ⟨rfl, hne⟩

theorem mem_fixes_ofMessages (filetype : Filetype) (settings : Settings) {ms : List Message}
    {e : String × List QuickFix} :
    e ∈ (Report.ofMessages filetype settings ms).fixes.entries ↔
      ∃ k m, ms[k]? = some m ∧ fixesFor k m = some e := by
  simp only [Report.ofMessages, List.mem_filterMap, id, exists_eq_right, List.mem_mapIdx]
  constructor
  · intro ⟨k, hk, he⟩
    exact ⟨k, ms[k], List.getElem?_eq_getElem hk, he⟩
  · intro ⟨k, m, hm, he⟩
    obtain ⟨hk, rfl⟩ := List.getElem?_eq_some_iff.mp hm
    exact ⟨k, hk, he⟩

namespace Findings.WellFormed

theorem empty : WellFormed {} where
  distinct := .nil
  numbered _ h := by cases h
  named _ h := by cases h
  offered _ h := by cases h
  standing _ h := by cases h

/-- The last artifact is of no concern. -/
theorem congr {f g : Findings} (h : WellFormed f) (hd : g.diagnostics = f.diagnostics)
    (hf : g.fixes = f.fixes) : WellFormed g := by
  constructor
  · exact hd ▸ h.distinct
  · exact hd ▸ h.numbered
  · rw [hd, hf]
    exact h.named
  · exact hf ▸ h.offered
  · exact hf ▸ h.standing

theorem ofMessages (filetype : Filetype) (settings : Settings) (ms : List Message)
    (artifact : Option Artifact) :
    WellFormed ⟨(Report.ofMessages filetype settings ms).diagnostics,
      (Report.ofMessages filetype settings ms).fixes, artifact⟩ where
  distinct := distinct_ofMessages filetype settings ms
  numbered d hd := by
    obtain ⟨k, _, rfl⟩ := List.mem_mapIdx.mp hd
    exact ⟨k + 1, Nat.succ_pos k, rfl⟩
  named e he := by
    obtain ⟨k, m, hm, hf⟩ := (mem_fixes_ofMessages filetype settings).mp he
    obtain ⟨hk, rfl⟩ := List.getElem?_eq_some_iff.mp hm
    obtain ⟨rfl, _⟩ := eq_of_fixesFor hf
    exact ⟨_, List.mem_mapIdx.mpr ⟨k, hk, rfl⟩, rfl⟩
  offered e he := by
    obtain ⟨k, m, _, hf⟩ := (mem_fixes_ofMessages filetype settings).mp he
    obtain ⟨rfl, hne⟩ := eq_of_fixesFor hf
    intro hnil
    have hl := congrArg List.length hnil
    simp only [QuickFix.ofSuggestions, List.length_mapIdx, List.length_nil] at hl
    exact hne (List.length_eq_zero_iff.mp hl)
  standing e he j fix hfix := by
    obtain ⟨k, m, _, hf⟩ := (mem_fixes_ofMessages filetype settings).mp he
    obtain ⟨rfl, _⟩ := eq_of_fixesFor hf
    exact QuickFix.standsAt_ofSuggestions hfix

theorem of_lint {u : Url} {document : Option Document} {settings : Settings} {r : Report}
    (h : lint u document settings = .ok r) (artifact : Option Artifact) :
    WellFormed ⟨r.diagnostics, r.fixes, artifact⟩ := by
  unfold lint at h
  cases document with
  | none => cases h
  | some d =>
    simp only at h
    split at h
    · cases h
    · cases h
      exact ofMessages ..

/-- Without some diagnostics, and the quick fixes for these, findings stay well formed. -/
theorem remove {f : Findings} (h : WellFormed f) (removed : List Diagnostic) (wholeFamily : Bool) :
    WellFormed (f.remove removed wholeFamily none) := by
  have kept : ∀ d ∈ without removed wholeFamily f.diagnostics, d ∈ f.diagnostics := fun d hd =>
    (List.mem_filter.mp hd).1
  constructor
  · exact h.distinct.without removed wholeFamily
  · intro d hd
    exact h.numbered d (kept d hd)
  · intro e he
    obtain ⟨_, hn⟩ := List.mem_filter.mp he
    obtain ⟨d, hd, hc⟩ := List.any_eq_true.mp hn
    exact ⟨d, hd, of_decide_eq_true hc⟩
  · intro e he
    exact h.offered e (List.mem_filter.mp he).1
  · intro e he
    exact h.standing e (List.mem_filter.mp he).1

end Findings.WellFormed

namespace Findings

/-- What is left of findings when a diagnostic and the quick fixes under its code have gone. -/
structure Loses (f : Findings) (d : Diagnostic) (code : String) (left : Findings) : Prop where
  diagnostics : ∃ xs ys, f.diagnostics = xs ++ d :: ys ∧ left.diagnostics = xs ++ ys
  others : ∀ x ∈ left.diagnostics, x.codeText ≠ some code
  fixes : left.fixes.entries = f.fixes.entries.filter fun e => e.1 ≠ code
  artifact : left.artifact = f.artifact

/-- Taking a diagnostic out of well-formed findings takes nothing else out. -/
theorem WellFormed.loses {f : Findings} (h : f.WellFormed) {d : Diagnostic} {code : String}
    (stored : d ∈ f.diagnostics) (coded : d.codeText = some code) :
    f.Loses d code (f.remove [d] false none) := by
  have hf : without [d] false f.diagnostics =
      f.diagnostics.filter fun x => x.codeText ≠ some code := by
    refine List.filter_congr fun x _ => ?_
    cases hx : x.codeText <;> simp [Diagnostic.hasCode, coded, hx, eq_comm]
  have same : ∀ x ∈ f.diagnostics, x.codeText = some code → x = d := fun x hx hc =>
    h.distinct.eq_of_codeText hx stored (hc.trans coded.symm)
  have others : ∀ x ∈ without [d] false f.diagnostics, x.codeText ≠ some code := by
    rw [hf]
    intro x hx
    simpa using (List.mem_filter.mp hx).2
  obtain ⟨xs, ys, he⟩ := List.append_of_mem stored
  have apart : ∀ x ∈ xs ++ ys, x.codeText ≠ some code := by
    have hd := h.distinct
    rw [he, Distinct, List.map_append, List.map_cons, List.nodup_middle] at hd
    intro x hx hc
    refine (List.nodup_cons.mp hd).1 ?_
    rw [← List.map_append, coded, ← hc]
    exact List.mem_map_of_mem hx
  refine ⟨⟨xs, ys, he, ?_⟩, others, ?_, rfl⟩
  · rw [Findings.remove, hf, he, List.filter_append, List.filter_cons_of_neg (by simp [coded]),
      ← List.filter_append, List.filter_eq_self]
    exact fun x hx => decide_eq_true (apart x hx)
  · refine List.filter_congr fun e he => ?_
    rw [Bool.eq_iff_iff]
    simp only [names, List.any_eq_true, decide_eq_true_eq]
    constructor
    · rintro ⟨x, hx, hc⟩ rfl
      exact others x hx hc
    · intro hne
      obtain ⟨x, hx, hc⟩ := h.named e he
      refine ⟨x, ?_, hc⟩
      rw [hf]
      exact List.mem_filter.mpr ⟨hx, by simp [hc, hne]⟩

end Findings

end Considerate
