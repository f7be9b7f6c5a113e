import Considerate.Proofs.Keyed
import Considerate.Proofs.Store
import Mathlib.Data.List.TakeWhile

namespace Considerate

namespace Diagnostic

/-- The text stands before the first dash of the code, or is all of a code without a dash. -/
structure IsFamily (part : List Char) (code : String) : Prop where
  dashless : '-' ∉ part
  first : code.toList = part ∨ ∃ rest, code.toList = part ++ '-' :: rest

/-- The diagnostic has the code of one of those that are taken out, or with whole families one that
is the same before the first dash. -/
def GoesWith (removed : List Diagnostic) (wholeFamily : Bool) (d : Diagnostic) : Prop :=
  ∃ r ∈ removed, ∃ code code', r.codeText = some code ∧ d.codeText = some code' ∧
    if wholeFamily then ∃ part, IsFamily part code ∧ IsFamily part code' else code' = code

/-- The second diagnostic is the first one, on lines that are further down by `n`. -/
structure IsBelow (n : Nat) (d e : Diagnostic) : Prop where
  start : e.range.start.line.toNat = d.range.start.line.toNat + n
  stop : e.range.stop.line.toNat = d.range.stop.line.toNat + n
  rest : e = { d with
    range.start.line := e.range.start.line
    range.stop.line := e.range.stop.line }

/-- The second diagnostic is the first one, one line further down if that starts at the line from
which they are moved or below it. -/
def IsShifted (shiftFrom : Option UInt32) (d e : Diagnostic) : Prop :=
  IsBelow (if ∃ n ∈ shiftFrom, n ≤ d.range.start.line then 1 else 0) d e

/-- The diagnostic can be moved down by a line. -/
structure HasLineBelow (d : Diagnostic) : Prop where
  start : d.range.start.line.toNat + 1 < UInt32.size
  stop : d.range.stop.line.toNat + 1 < UInt32.size

instance (d : Diagnostic) : Decidable d.HasLineBelow :=
  decidable_of_iff (_ ∧ _) ⟨fun h => ⟨h.1, h.2⟩, fun h => ⟨h.start, h.stop⟩⟩

variable {part : List Char} {code : String} {removed : List Diagnostic} {wholeFamily : Bool}
  {d : Diagnostic}

theorem isFamily_iff : IsFamily part code ↔ part = family code := by
  unfold family
  constructor
  · intro h
    have plain : ∀ c ∈ part, decide (c ≠ '-') = true :=
      fun c hc => decide_eq_true fun he => h.dashless (he ▸ hc)
    rcases h.first with whole | ⟨rest, parts⟩
    · rw [whole]
      exact (List.takeWhile_eq_self_iff.mpr plain).symm
    · rw [parts, List.takeWhile_append_of_pos plain]
      simp
  · rintro rfl
    refine ⟨fun h => by simpa using List.mem_takeWhile_imp h, ?_⟩
    have parts := List.takeWhile_append_dropWhile (p := fun c => decide (c ≠ '-')) (l := code.toList)
    have first := List.head?_dropWhile_not (fun c => decide (c ≠ '-')) code.toList
    cases behind : code.toList.dropWhile (· ≠ '-') with
    | nil =>
      rw [behind, List.append_nil] at parts
      exact Or.inl parts.symm
    | cons c rest =>
      rw [behind] at parts first
      obtain rfl : c = '-' := by simpa using first
      exact Or.inr ⟨rest, parts.symm⟩

/-- Two codes are the same before their first dash if their families are. -/
theorem exists_isFamily_iff {code' : String} :
    (∃ part, IsFamily part code ∧ IsFamily part code') ↔ family code' = family code := by
  simp only [isFamily_iff]
  constructor
  · rintro ⟨part, rfl, same⟩
    exact same.symm
  · intro same
    exact ⟨_, rfl, same.symm⟩

theorem hasCode_iff : d.hasCode wholeFamily code = true ↔ ∃ code', d.codeText = some code' ∧
    if wholeFamily then ∃ part, IsFamily part code ∧ IsFamily part code' else code' = code := by
  unfold hasCode
  cases d.codeText with
  | none => simp
  | some code' => cases wholeFamily <;> simp [exists_isFamily_iff]

/-- A diagnostic goes if it has one of the codes that are taken out. -/
theorem goesWith_iff : d.GoesWith removed wholeFamily ↔
    ∃ code, some code ∈ removed.map codeText ∧ d.hasCode wholeFamily code = true := by
  simp only [GoesWith, hasCode_iff, List.mem_map]
  constructor
  · rintro ⟨r, hr, code, code', hc, rest⟩
    exact ⟨code, ⟨r, hr, hc⟩, code', rest⟩
  · rintro ⟨code, ⟨r, hr, hc⟩, code', rest⟩
    exact ⟨r, hr, code, code', hc, rest⟩

theorem any_hasCode_iff :
    ((removed.filterMap codeText).any fun c => d.hasCode wholeFamily c) = true ↔
      d.GoesWith removed wholeFamily := by
  simp only [List.any_eq_true, goesWith_iff, List.mem_filterMap, List.mem_map]

instance : Decidable (d.GoesWith removed wholeFamily) := decidable_of_iff _ any_hasCode_iff

theorem not_goesWith_of_uncoded (h : d.codeText = none) : ¬ d.GoesWith removed wholeFamily := by
  rintro ⟨_, _, _, _, _, hc, _⟩
  rw [h] at hc
  cases hc

/-- What is not moved stays on its lines. -/
theorem isBelow_self (d : Diagnostic) : IsBelow 0 d d := ⟨rfl, rfl, rfl⟩

theorem isBelow_nextLine (h : d.HasLineBelow) : IsBelow 1 d { d with range := d.range.nextLine } where
  start := by
    rw [Range.nextLine, UInt32.toNat_add]
    exact Nat.mod_eq_of_lt h.start
  stop := by
    rw [Range.nextLine, UInt32.toNat_add]
    exact Nat.mod_eq_of_lt h.stop
  rest := rfl

theorem isShifted_shiftFrom (h : d.HasLineBelow) (n : UInt32) :
    IsShifted (some n) d (shiftFrom n d) := by
  by_cases hn : n ≤ d.range.start.line
  · simpa [IsShifted, Diagnostic.shiftFrom, hn] using isBelow_nextLine h
  · simpa [IsShifted, Diagnostic.shiftFrom, hn] using isBelow_self d

theorem codeText_shiftFrom (n : UInt32) (d : Diagnostic) :
    (d.shiftFrom n).codeText = d.codeText := by
  unfold Diagnostic.shiftFrom
  split <;> rfl

end Diagnostic

namespace Findings

variable {f : Findings} {removed removed' : List Diagnostic} {wholeFamily wholeFamily' : Bool}
  {ds : List Diagnostic} {shiftFrom : Option UInt32}

/-- The diagnostics that stay when those with the code of one go; all stay if that has none. -/
def withoutOne (wholeFamily : Bool) (ds : List Diagnostic) (r : Diagnostic) : List Diagnostic :=
  match r.codeText with
  | none => ds
  | some code => ds.filter fun d => !d.hasCode wholeFamily code

/-- What is left of the findings when diagnostics have been taken out, and the others moved. -/
structure Leaves (f : Findings) (removed : List Diagnostic) (wholeFamily : Bool)
    (shiftFrom : Option UInt32) (left : Findings) : Prop where
  diagnostics : List.Forall₂ (Diagnostic.IsShifted shiftFrom)
    (f.diagnostics.filter fun d => ¬ d.GoesWith removed wholeFamily) left.diagnostics
  oneByOne : List.Forall₂ (Diagnostic.IsShifted shiftFrom)
    (removed.foldl (withoutOne wholeFamily) f.diagnostics) left.diagnostics
  uncoded : List.Forall₂ (Diagnostic.IsShifted shiftFrom)
    (f.diagnostics.filter fun d => d.codeText = none)
    (left.diagnostics.filter fun d => d.codeText = none)
  fixes : ∀ code, left.fixes.get? code =
    if ∃ d ∈ left.diagnostics, d.codeText = some code then f.fixes.get? code else none
  artifact : left.artifact = f.artifact

theorem without_eq (removed : List Diagnostic) (wholeFamily : Bool) (ds : List Diagnostic) :
    without removed wholeFamily ds = ds.filter fun d => ¬ d.GoesWith removed wholeFamily := by
  refine List.filter_congr fun d _ => ?_
  rw [Bool.eq_iff_iff, decide_eq_true_iff, ← Diagnostic.any_hasCode_iff, Bool.not_eq_true',
    Bool.not_eq_true]

/-- Which diagnostics stay depends on the codes alone, not on their order or repetition. -/
theorem without_congr (same : ∀ code, some code ∈ removed'.map Diagnostic.codeText ↔
      some code ∈ removed.map Diagnostic.codeText) (wholeFamily : Bool) (ds : List Diagnostic) :
    without removed' wholeFamily ds = without removed wholeFamily ds := by
  rw [without_eq, without_eq]
  refine List.filter_congr fun d _ => decide_eq_decide.mpr ?_
  simp only [Diagnostic.goesWith_iff, same]

/-- What is taken out in two goes is taken out in one. -/
theorem without_append (removed more : List Diagnostic) (wholeFamily : Bool)
    (ds : List Diagnostic) : without (removed ++ more) wholeFamily ds =
      without more wholeFamily (without removed wholeFamily ds) := by
  simp only [without_eq, List.filter_filter]
  refine List.filter_congr fun d _ => ?_
  rw [← Bool.decide_and, decide_eq_decide]
  simp only [Diagnostic.goesWith_iff, List.map_append, List.mem_append, or_and_right, exists_or,
    not_or]
  exact and_comm

theorem without_comm (removed more : List Diagnostic) (wholeFamily wholeFamily' : Bool)
    (ds : List Diagnostic) : without more wholeFamily' (without removed wholeFamily ds) =
      without removed wholeFamily (without more wholeFamily' ds) := by
  simp only [without, List.filter_filter]
  refine List.filter_congr fun d _ => ?_
  exact Bool.and_comm ..

theorem withoutOne_eq (wholeFamily : Bool) (ds : List Diagnostic) (r : Diagnostic) :
    withoutOne wholeFamily ds r = without [r] wholeFamily ds := by
  unfold withoutOne without
  cases h : r.codeText <;> simp [h]

/-- Codes that are taken out one after the other are taken out at once. -/
theorem foldl_withoutOne (removed : List Diagnostic) (wholeFamily : Bool) (ds : List Diagnostic) :
    removed.foldl (withoutOne wholeFamily) ds = without removed wholeFamily ds := by
  induction removed generalizing ds with
  | nil => simp [without]
  | cons r removed ih =>
    rw [List.foldl_cons, ih, withoutOne_eq, ← without_append, List.singleton_append]

theorem forall₂_isShifted (below : ∀ d ∈ f.diagnostics, d.HasLineBelow)
    (removed : List Diagnostic) (wholeFamily : Bool) (shiftFrom : Option UInt32) :
    List.Forall₂ (fun d e => d.IsShifted shiftFrom e ∧ e.codeText = d.codeText)
      (without removed wholeFamily f.diagnostics)
      (f.remove removed wholeFamily shiftFrom).diagnostics := by
  have kept : ∀ d ∈ without removed wholeFamily f.diagnostics, d.HasLineBelow :=
    fun d hd => below d (List.mem_filter.mp hd).1
  cases shiftFrom with
  | none =>
    refine List.forall₂_same.mpr fun d _ => ⟨?_, rfl⟩
    simpa [Diagnostic.IsShifted] using d.isBelow_self
  | some n =>
    refine List.forall₂_map_right_iff.mpr (List.forall₂_same.mpr fun d hd => ⟨?_, ?_⟩)
    · exact Diagnostic.isShifted_shiftFrom (kept d hd) n
    · exact d.codeText_shiftFrom n

theorem names_iff {code : String} :
    names ds code = true ↔ ∃ d ∈ ds, d.codeText = some code := by
  simp [names]

theorem leaves_remove (below : ∀ d ∈ f.diagnostics, d.HasLineBelow) (removed : List Diagnostic)
    (wholeFamily : Bool) (shiftFrom : Option UInt32) :
    f.Leaves removed wholeFamily shiftFrom (f.remove removed wholeFamily shiftFrom) := by
  have shifted := forall₂_isShifted below removed wholeFamily shiftFrom
  have all := shifted.imp fun _ _ h => h.1
  constructor
  case diagnostics => rwa [← without_eq]
  case oneByOne => rwa [foldl_withoutOne]
  case uncoded =>
    -- None of those without a code goes, so that they can be looked for in what stays.
    have same : (f.diagnostics.filter fun d => d.codeText = none) =
        (without removed wholeFamily f.diagnostics).filter fun d => d.codeText = none := by
      rw [without_eq, List.filter_filter]
      refine List.filter_congr fun d _ => ?_
      cases h : d.codeText with
      | none => simp [Diagnostic.not_goesWith_of_uncoded h]
      | some code => rfl
    rw [same]
    refine (List.rel_filter ?_ shifted).imp fun _ _ h => h.1
    intro d e h
    simp only [decide_eq_true_eq, h.2]
  case fixes =>
    intro code
    have found := Keyed.find_filter (names (f.remove removed wholeFamily shiftFrom).diagnostics)
      code f.fixes.entries
    simp only [names_iff] at found
    exact found
  case artifact => rfl

/-- Of two removals only what stays in the end matters. -/
theorem remove_remove (f : Findings) (removed more : List Diagnostic)
    (wholeFamily wholeFamily' : Bool) :
    (f.remove removed wholeFamily none).remove more wholeFamily' none =
      { f with
        diagnostics := without more wholeFamily' (without removed wholeFamily f.diagnostics)
        fixes := ⟨f.fixes.entries.filter fun e =>
          names (without more wholeFamily' (without removed wholeFamily f.diagnostics)) e.1⟩ } := by
  have twice : ∀ e : String × List QuickFix,
      names (without more wholeFamily' (without removed wholeFamily f.diagnostics)) e.1 = true →
        names (without removed wholeFamily f.diagnostics) e.1 = true := by
    intro e h
    obtain ⟨d, hd, hc⟩ := names_iff.mp h
    exact names_iff.mpr ⟨d, (List.mem_filter.mp hd).1, hc⟩
  simp only [remove, List.filter_filter]
  congr 2
  refine List.filter_congr fun e _ => ?_
  rw [Bool.and_eq_left_iff_imp]
  exact twice e

theorem remove_append (f : Findings) (removed more : List Diagnostic) (wholeFamily : Bool) :
    (f.remove removed wholeFamily none).remove more wholeFamily none =
      f.remove (removed ++ more) wholeFamily none := by
  rw [remove_remove, ← without_append]
  rfl

theorem remove_comm (f : Findings) (removed more : List Diagnostic)
    (wholeFamily wholeFamily' : Bool) :
    (f.remove removed wholeFamily none).remove more wholeFamily' none =
      (f.remove more wholeFamily' none).remove removed wholeFamily none := by
  rw [remove_remove, remove_remove, without_comm]

end Findings

namespace Store

/-- The store without some diagnostics of a document. -/
def takeOut (s : Store) (u : Url) (removed : List Diagnostic) (wholeFamily : Bool) : Store :=
  (s.change u (.remove removed wholeFamily none)).1

theorem takeOut_takeOut (s : Store) (u : Url) (removed more : List Diagnostic)
    (wholeFamily wholeFamily' : Bool) :
    (s.takeOut u removed wholeFamily).takeOut u more wholeFamily' =
      s.set u (((s.findings u).remove removed wholeFamily none).remove more wholeFamily' none) := by
  have set_set : ∀ f g : Findings, (s.set u f).set u g = s.set u g :=
    fun f g => congrArg Keyed.mk (Keyed.put_put u g f s.entries)
  simp only [takeOut, change, findings_set_self, set_set]

/-- Taking diagnostics out of a document leaves in their order those that have not a code that is
taken out, each one line further down if it starts at the line given or below it, and the quick
fixes for these. What is left depends on the codes alone, and not on how often they come or in which
order. Without a line given, two removals may be made in either order, or in one. -/
theorem removed_at_once (s : Store) (u : Url) (removed : List Diagnostic) (wholeFamily : Bool)
    (shiftFrom : Option UInt32) (below : ∀ d ∈ (s.findings u).diagnostics, d.HasLineBelow) :
    (∃ left, (s.change u (.remove removed wholeFamily shiftFrom)).1.get? u = some left ∧
      (s.change u (.remove removed wholeFamily shiftFrom)).2 = some left.diagnostics ∧
      (s.findings u).Leaves removed wholeFamily shiftFrom left) ∧
    (∀ v, v ≠ u → (s.change u (.remove removed wholeFamily shiftFrom)).1.get? v = s.get? v) ∧
    (∀ removed', (∀ code, some code ∈ removed'.map Diagnostic.codeText ↔
        some code ∈ removed.map Diagnostic.codeText) →
      s.change u (.remove removed' wholeFamily shiftFrom) =
        s.change u (.remove removed wholeFamily shiftFrom)) ∧
    (∀ more wholeFamily', (s.takeOut u removed wholeFamily).takeOut u more wholeFamily' =
      (s.takeOut u more wholeFamily').takeOut u removed wholeFamily) ∧
    ∀ more, (s.takeOut u removed wholeFamily).takeOut u more wholeFamily =
      s.takeOut u (removed ++ more) wholeFamily := by
  refine ⟨⟨_, Keyed.get?_set_self .., rfl, Findings.leaves_remove below ..⟩,
    fun v hv => s.get?_change_ne hv _, fun removed' same => ?_, fun more wholeFamily' => ?_,
    fun more => ?_⟩
  · simp only [change, Findings.remove, Findings.without_congr same]
  · rw [takeOut_takeOut, takeOut_takeOut, Findings.remove_comm]
  · rw [takeOut_takeOut, Findings.remove_append]
    rfl

def diagnosticAt (line : UInt32) (code : Code) : Diagnostic where
  range := ⟨⟨line, 0⟩, ⟨line, 4⟩⟩
  message := ""
  code := some code

/-- Diagnostics of two families, and one that has a number for a code. -/
def mixed (u : Url) : Store :=
  ⟨[(u, {
    diagnostics := [diagnosticAt 0 (.text "other-1"), diagnosticAt 0 (.text "kindlint-1"),
      diagnosticAt 2 (.number 1), diagnosticAt 3 (.text "kindlint-2")]
    fixes := ⟨[("kindlint-2", [.suggest 0 "main"]), ("other-1", [.suggest 0 "legacy"])]⟩ })]⟩

/-- A family goes by a code of it that no diagnostic has, and all others move. -/
theorem removed_at_once_mixed :
    let u : Url := { scheme := "file", path := .segments ["a.txt"] }
    let removed := [diagnosticAt 9 (.number 1), diagnosticAt 9 (.text "kindlint-9")]
    (∀ d ∈ ((mixed u).findings u).diagnostics, d.HasLineBelow) ∧
    ∃ left, ((mixed u).change u (.remove removed true (some 0))).1.get? u = some left ∧
      ((mixed u).change u (.remove removed true (some 0))).2 = some left.diagnostics ∧
      ((mixed u).findings u).Leaves removed true (some 0) left ∧
      left.diagnostics.map (fun d => (d.codeText, d.range.start.line)) =
        [(some "other-1", 1), (none, 3)] ∧
      left.fixes.keys = ["other-1"] := by
  intro u removed
  have below : ∀ d ∈ ((mixed u).findings u).diagnostics, d.HasLineBelow := by decide +kernel
  obtain ⟨⟨left, there, shown, leaves⟩, _⟩ := removed_at_once (mixed u) u removed true (some 0) below
  have stays : (((mixed u).change u (.remove removed true (some 0))).1.get? u).map
      (fun f => (f.diagnostics.map fun d => (d.codeText, d.range.start.line), f.fixes.keys)) =
        some ([(some "other-1", 1), (none, 3)], ["other-1"]) := by
    decide +kernel
  rw [there] at stays
  obtain ⟨diagnostics, fixes⟩ := Prod.mk.inj (Option.some.inj stays)
  exact ⟨below, left, there, shown, leaves, diagnostics, fixes⟩

end Store

end Considerate
