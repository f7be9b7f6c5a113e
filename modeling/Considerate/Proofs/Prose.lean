import Considerate.Markup.Profile
import Considerate.Proofs.Words

namespace Considerate.Markup

open Text

namespace Html

variable {cs rest : List Char}

theorem suffix_of_afterTagEnd (h : afterTagEnd cs = some rest) : rest <:+ cs := by
  induction cs with
  | nil => cases h
  | cons c cs ih =>
    unfold afterTagEnd at h
    split at h
    · cases h
      exact List.suffix_cons c rest
    · exact (ih h).trans (List.suffix_cons c cs)

theorem suffix_of_fromClosing {name : List Char} (h : fromClosing name cs = some rest) :
    rest <:+ cs := by
  induction cs with
  | nil => cases h
  | cons c cs ih =>
    unfold fromClosing at h
    split at h
    · cases h
      exact List.suffix_refl _
    · exact (ih h).trans (List.suffix_cons c cs)

theorem suffix_of_afterSkipped (h : afterSkipped cs = some rest) : rest <:+ cs := by
  unfold afterSkipped at h
  split at h
  · cases h
  · rename_i behind hb
    have hs := suffix_of_afterTagEnd hb
    split at h
    · cases h
      exact hs
    · split at h
      · cases h
        exact hs
      · rename_i closing hc
        exact (suffix_of_afterTagEnd h).trans ((suffix_of_fromClosing hc).trans hs)

/-- The run before the next tag is a part of the document. -/
theorem within_run (before cs : List Char) :
    (⟨byteSize before, byteSize before + byteSize (cs.takeWhile (· ≠ '<'))⟩ : Span).Within
      (before ++ cs) :=
  ⟨before, cs.takeWhile (· ≠ '<'), cs.dropWhile (· ≠ '<'), by simp, rfl⟩

theorem within_runsFrom (before cs : List Char) :
    ∀ s ∈ runsFrom (byteSize before) cs, s.Within (before ++ cs) := by
  generalize ho : byteSize before = offset
  induction offset, cs using runsFrom.induct generalizing before with
  | case1 offset cs h =>
    subst ho
    intro s hs
    rw [runsFrom] at hs
    split at hs
    · split at hs
      · cases hs
      · rw [List.mem_singleton.mp hs]
        exact within_run before cs
    · rename_i rest hr
      rw [h] at hr
      cases hr
  | case2 offset cs text start rest h ih =>
    subst ho
    intro s hs
    rw [runsFrom] at hs
    split at hs
    · rename_i hr
      rw [h] at hr
      cases hr
    · rename_i rest' hr
      rw [h, Option.some.injEq] at hr
      subst hr
      rcases List.mem_append.mp hs with hs | hs
      · split at hs
        · cases hs
        · rw [List.mem_singleton.mp hs]
          exact within_run before cs
      · obtain ⟨tag, ht⟩ := suffix_of_afterSkipped h
        have hd : before ++ cs = before ++ text ++ tag ++ rest := by
          rw [List.append_assoc, ht, List.append_assoc, List.takeWhile_append_dropWhile]
        rw [hd]
        refine ih (before ++ text ++ tag) ?_ s hs
        simp only [← ht, byteSize_append, start]
        omega

end Html

theorem Profile.within_prose {p : Profile} {cs : List Char} {prose : List Span}
    (read : p.prose cs = .ok prose) (plain : p ≠ .markdown ∧ p ≠ .mdx) :
    ∀ s ∈ prose, s.Within cs := by
  cases p with
  | text =>
    cases read
    intro s hs
    rw [List.mem_singleton.mp hs]
    exact ⟨[], cs, [], by simp, by simp [byteSize]⟩
  | html =>
    cases read
    exact Html.within_runsFrom [] cs
  | markdown => exact (plain.1 rfl).elim
  | mdx => exact (plain.2 rfl).elim

end Considerate.Markup
