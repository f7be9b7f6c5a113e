import Considerate.Proofs.Ranges
import Considerate.Proofs.Suggestions

namespace Considerate

/-- One position comes before another. -/
def Position.Before (p q : Position) : Prop :=
  p.line < q.line ∨ p.line = q.line ∧ p.character < q.character

theorem Position.before_iff {p q : Position} : p.Before q ↔
    p.line.toNat < q.line.toNat ∨
      p.line.toNat = q.line.toNat ∧ p.character.toNat < q.character.toNat := by
  rw [Before, UInt32.lt_iff_toNat_lt, UInt32.lt_iff_toNat_lt, UInt32.toNat_inj]

theorem Position.Before.not_le {p q : Position} (h : p.Before q) : ¬ q.le p = true := by
  rw [before_iff] at h
  rw [le_iff]
  omega

theorem Position.Before.le {p q : Position} (h : p.Before q) : p.le q = true := by
  rw [before_iff] at h
  rw [le_iff]
  omega

def Message.suggestions (m : Message) : List String := (Reason.ofText m.reason).suggestions

namespace Report

def fixesOf (r : Report) (d : Diagnostic) : List QuickFix := (d.codeText.bind r.fixes.get?).getD []

/-- The edit puts the only quick fix for a diagnostic in the place of what it is about. -/
structure Resolves (r : Report) (d : Diagnostic) (e : Edit) : Prop where
  range : e.range = d.range
  fix : (r.fixesOf d).map QuickFix.value = [e.newText]

variable {r : Report} {d : Diagnostic}

theorem editFor_eq_some_iff {e : Edit} : editFor r.fixes d = some e ↔ r.Resolves d e := by
  unfold editFor
  constructor
  · intro h
    split at h
    · rename_i fix one
      cases h
      exact ⟨rfl, by rw [fixesOf, one]; rfl⟩
    · cases h
  · intro ⟨range, fix⟩
    unfold fixesOf at fix
    cases h : d.codeText.bind r.fixes.get? with
    | none =>
      rw [h] at fix
      cases fix
    | some fixes =>
      rw [h, Option.getD_some, List.map_eq_singleton_iff] at fix
      obtain ⟨fix, rfl, value⟩ := fix
      simp only [value, ← range]

theorem isSome_editFor_iff : (editFor r.fixes d).isSome = true ↔ (r.fixesOf d).length = 1 := by
  rw [Option.isSome_iff_exists]
  simp only [editFor_eq_some_iff]
  constructor
  · intro ⟨e, h⟩
    have hl := congrArg List.length h.fix
    rwa [List.length_map] at hl
  · intro h
    obtain ⟨fix, hf⟩ := List.length_eq_one_iff.mp h
    exact ⟨⟨d.range, fix.value⟩, rfl, by rw [hf]; rfl⟩

theorem forall₂_resolves (r : Report) :
    List.Forall₂ r.Resolves (r.diagnostics.filter fun d => (r.fixesOf d).length = 1)
      (r.diagnostics.filterMap (editFor r.fixes)) := by
  have same : r.diagnostics.filterMap (editFor r.fixes) =
      (r.diagnostics.filter fun d => (r.fixesOf d).length = 1).filterMap (editFor r.fixes) := by
    rw [List.filterMap_filter]
    refine List.filterMap_congr fun d _ => ?_
    split
    · rfl
    · rename_i other
      rw [decide_eq_true_eq, ← isSome_editFor_iff] at other
      exact Option.not_isSome_iff_eq_none.mp other
  rw [same]
  refine forall₂_filterMap fun d hd => ?_
  have one := of_decide_eq_true (List.mem_filter.mp hd).2
  obtain ⟨e, he⟩ := Option.isSome_iff_exists.mp (isSome_editFor_iff.mpr one)
  exact ⟨e, he, editFor_eq_some_iff.mp he⟩

theorem mergeSort_notBefore {es : List Edit}
    (ascending : es.Pairwise fun a b => a.range.start.Before b.range.start) :
    es.mergeSort notBefore = es.reverse := by
  have trans : ∀ a b c : Edit, notBefore a b = true → notBefore b c = true →
      notBefore a c = true :=
    fun _ _ _ h h' => Position.le_trans h' h
  have total : ∀ a b : Edit, (notBefore a b || notBefore b a) = true := by
    intro a b
    rw [Bool.or_eq_true]
    exact Position.le_total b.range.start a.range.start
  have sorted := List.pairwise_mergeSort trans total es
  have reversed : es.reverse.Pairwise fun a b => notBefore a b = true :=
    List.pairwise_reverse.mpr (ascending.imp Position.Before.le)
  refine ((List.mergeSort_perm es notBefore).trans es.reverse_perm.symm).eq_of_pairwise ?_ sorted
    reversed
  intro a b ha hb first second
  rw [List.mem_mergeSort] at ha
  rw [List.mem_reverse] at hb
  obtain ⟨i, hi, rfl⟩ := List.getElem_of_mem ha
  obtain ⟨j, hj, rfl⟩ := List.getElem_of_mem hb
  rw [List.pairwise_iff_getElem] at ascending
  rcases Nat.lt_trichotomy i j with lt | rfl | lt
  · exact ((ascending i j hi hj lt).not_le first).elim
  · rfl
  · exact ((ascending j i hj hi lt).not_le second).elim

/-- A diagnostic of the report and its quick fixes are those for the message. -/
structure IsFor (r : Report) (d : Diagnostic) (m : Message) : Prop where
  range : d.range = (Diagnostic.ofMessage 0 m).range
  fixes : (r.fixesOf d).map QuickFix.value = m.suggestions

variable {filetype : Filetype} {settings : Settings} {ms : List Message}

theorem values_fixesOf {k : Nat} {m : Message} (hm : ms[k]? = some m) :
    ((ofMessages filetype settings ms).fixesOf (.ofMessage k m)).map QuickFix.value =
      m.suggestions := by
  have code : (Diagnostic.ofMessage k m).codeText = some (Diagnostic.codeAt k) := rfl
  rw [fixesOf, code, Option.bind_some]
  cases h : (ofMessages filetype settings ms).fixes.get? (Diagnostic.codeAt k) with
  | some fixes =>
    obtain ⟨j, m', hm', hf⟩ := (get?_fixes_iff ..).mp h
    obtain rfl := Diagnostic.codeAt_inj (code_of_fixesFor hf)
    cases hm.symm.trans hm'
    cases (eq_of_fixesFor hf).1
    exact ofSuggestions_values _
  | none =>
    cases hs : m.suggestions with
    | nil => rfl
    | cons v vs =>
      have fixes : fixesFor k m = some (Diagnostic.codeAt k, QuickFix.ofSuggestions (v :: vs)) := by
        unfold fixesFor
        rw [← Message.suggestions, hs]
      rw [(get?_fixes_iff ..).mpr ⟨k, m, hm, fixes⟩] at h
      cases h

theorem forall₂_isFor (filetype : Filetype) (settings : Settings) (ms : List Message) :
    List.Forall₂ (ofMessages filetype settings ms).IsFor
      (ofMessages filetype settings ms).diagnostics ms := by
  rw [List.forall₂_iff_get]
  refine ⟨List.length_mapIdx, fun k hd hm => ?_⟩
  have same : (ofMessages filetype settings ms).diagnostics.get ⟨k, hd⟩ =
      .ofMessage k (ms.get ⟨k, hm⟩) := List.getElem_mapIdx ..
  rw [same]
  exact ⟨rfl, values_fixesOf (List.getElem?_eq_getElem hm)⟩

end Report

end Considerate
