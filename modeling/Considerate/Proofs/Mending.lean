import Considerate.Proofs.Filtering
import Considerate.Proofs.Patches
import Considerate.Proofs.Segments

namespace Considerate

open Text

namespace Rule

def only? (r : Rule) : Option String :=
  match r.suggestions with
  | [v] => some v
  | _ => none

variable {r q : Rule} {p v : String}

theorem only?_eq_some_iff : r.only? = some v ↔ r.suggestions = [v] := by
  unfold only?
  split
  · rename_i w h
    simp [h]
  · rename_i h
    constructor
    · nofun
    · exact fun he => (h v he).elim

theorem length_suggestions_iff : r.suggestions.length = 1 ↔ r.only? ≠ none := by
  rw [List.length_eq_one_iff, Option.ne_none_iff_exists']
  simp only [only?_eq_some_iff]

/-- What is replaced is one word, and so is what takes its place. -/
theorem exists_word_of_only (hr : r ∈ all) (h : r.only? = some v) :
    ∃ p, r.phrase = [p] ∧ 2 ≤ p.length ∧ (∀ c ∈ p.toList, c.isLower = true ∧ c ≠ 'k') ∧
      IsLatin v.toList := by
  have h' : ∀ r ∈ all, ∀ v ∈ r.only?, ∀ p ∈ r.phrase, r.phrase.length = 1 ∧ 2 ≤ p.length ∧
      (p.toList.all fun c => c.isLower && c != 'k') = true ∧
      v.toList.all Char.isAlpha = true ∧ 2 ≤ v.toList.length := by
    decide +kernel
  obtain ⟨p, hp⟩ := List.exists_mem_of_ne_nil _ (phrase_ne_nil hr)
  obtain ⟨one, long, lower, letters, length⟩ := h' r hr v h p hp
  obtain ⟨p', he⟩ := List.length_eq_one_iff.mp one
  rw [he, List.mem_singleton] at hp
  refine ⟨p, hp ▸ he, long, fun c hc => ?_, List.all_eq_true.mp letters, length⟩
  have both := List.all_eq_true.mp lower c hc
  rwa [Bool.and_eq_true, bne_iff_ne] at both

/-- What takes the place of a word is no word of any phrase. -/
theorem fold_only_ne (hr : r ∈ all) (h : r.only? = some v) (hq : q ∈ all) :
    ∀ p ∈ q.phrase, fold v.toList ≠ p.toList := by
  have h' : ∀ r ∈ all, ∀ v ∈ r.only?, ∀ q ∈ all, ∀ p ∈ q.phrase, fold v.toList ≠ p.toList := by
    decide +kernel
  exact h' r hr v h q hq

end Rule

namespace Text

theorem isAlpha_of_isLower_foldChar {c : Char} (h : (foldChar c).isLower = true)
    (hk : foldChar c ≠ 'k') : c.isAlpha = true := by
  unfold foldChar at h hk
  split at h
  · rename_i hc
    simp [hc] at hk
  · refine (Bool.or_eq_true ..).mpr ?_
    delta Char.toLower at h
    split at h
    · rename_i hc
      exact Or.inl (decide_eq_true hc)
    · exact Or.inr h

/-- The words of a phrase that is replaced are Latin in any letter case. -/
theorem isLatin_of_fold {t : List Char} {p : String} (h : fold t = p.toList) (long : 2 ≤ p.length)
    (lower : ∀ c ∈ p.toList, c.isLower = true ∧ c ≠ 'k') : IsLatin t := by
  constructor
  · intro c hc
    have hm : foldChar c ∈ p.toList := h ▸ List.mem_map_of_mem hc
    exact isAlpha_of_isLower_foldChar (lower _ hm).1 (lower _ hm).2
  · have hl := congrArg List.length h
    rw [fold, List.length_map, String.length_toList] at hl
    omega

/-- The word that takes the place of another, where it is the only one that is offered for it. -/
def replacement (rules : List Rule) (t : List Char) : Option String :=
  rules.findSome? fun r => if r.phrase.map String.toList = [fold t] then r.only? else none

def mend (rules : List Rule) (t : List Char) : List Char :=
  match replacement rules t with
  | some v => v.toList
  | none => t

def mended (rules : List Rule) (cs : List Char) : List Char :=
  ((segments cs).map (mend rules)).flatten

/-- The second word is the first one, mended. -/
structure Mends (rules : List Rule) (w w' : Word) : Prop where
  gap : w'.gap = w.gap
  text : w'.text = mend rules w.text

def Word.patch? (rules : List Rule) (w : Word) : Option Patch :=
  (replacement rules w.text).map fun v => ⟨⟨w.start, w.stop⟩, v.toList⟩

end Text

def Match.patch? (m : Match) : Option Patch :=
  m.rule.only?.map fun v => ⟨⟨m.start, m.stop⟩, v.toList⟩

namespace Text

section

variable {rules : List Rule} (table : ∀ r ∈ rules, r ∈ Rule.all)
include table

theorem replacement_eq_some_iff {t : List Char} {v : String} : replacement rules t = some v ↔
    ∃ r ∈ rules, ∃ p, r.phrase = [p] ∧ fold t = p.toList ∧ r.only? = some v := by
  have single : ∀ r : Rule, r.phrase.map String.toList = [fold t] ↔
      ∃ p, r.phrase = [p] ∧ fold t = p.toList := by
    intro r
    rw [List.map_eq_singleton_iff]
    exact exists_congr fun p => and_congr_right' eq_comm
  constructor
  · intro h
    obtain ⟨r, hr, hv⟩ := List.exists_of_findSome?_eq_some h
    split at hv
    · rename_i hp
      obtain ⟨p, hp, hf⟩ := (single r).mp hp
      exact ⟨r, hr, p, hp, hf, hv⟩
    · cases hv
  · rintro ⟨r, hr, p, hp, hf, hv⟩
    cases h : replacement rules t with
    | none =>
      have hn := List.findSome?_eq_none_iff.mp h r hr
      rw [if_pos ((single r).mpr ⟨p, hp, hf⟩), hv] at hn
      cases hn
    | some v' =>
      obtain ⟨q, hq, hv'⟩ := List.exists_of_findSome?_eq_some h
      split at hv'
      · rename_i hp'
        obtain ⟨p', hp', hf'⟩ := (single q).mp hp'
        have he : p = p' := String.toList_inj.mp (hf.symm.trans hf')
        subst he
        have hrq := Rule.eq_of_head (table r hr) (table q hq) (by rw [hp, hp'])
        subst hrq
        exact hv'.symm.trans hv
      · cases hv'

theorem isLatin_of_replacement {t : List Char} {v : String} (h : replacement rules t = some v) :
    IsLatin t ∧ IsLatin v.toList := by
  obtain ⟨r, hr, p, hp, hf, hv⟩ := (replacement_eq_some_iff table).mp h
  obtain ⟨p', hp', long, lower, latin⟩ := Rule.exists_word_of_only (table r hr) hv
  cases hp.symm.trans hp'
  exact ⟨isLatin_of_fold hf long lower, latin⟩

theorem mend_cases (t : List Char) : mend rules t = t ∨ IsLatin t ∧ IsLatin (mend rules t) := by
  unfold mend
  split
  · rename_i v h
    exact Or.inr (isLatin_of_replacement table h)
  · exact Or.inl rfl

/-- Mending moves no boundary between words. -/
theorem segments_mended (cs : List Char) :
    segments (mended rules cs) = (segments cs).map (mend rules) :=
  segments_map fun s _ => mend_cases table s

theorem any_isAlphanumeric_mend (t : List Char) :
    (mend rules t).any isAlphanumeric = t.any isAlphanumeric := by
  rcases mend_cases table t with same | ⟨h, h'⟩
  · rw [same]
  · rw [h.any_isAlphanumeric, h'.any_isAlphanumeric]

theorem replacement_of_silent {t : List Char} (silent : ¬ t.any isAlphanumeric = true) :
    replacement rules t = none := by
  cases h : replacement rules t with
  | none => rfl
  | some v => exact (silent (isLatin_of_replacement table h).1.any_isAlphanumeric).elim

theorem mends_wordsOf (offset offset' : Nat) (gap : List Char) (ss : List (List Char)) :
    List.Forall₂ (Mends rules) (wordsOf offset gap ss)
      (wordsOf offset' gap (ss.map (mend rules))) := by
  induction ss generalizing offset offset' gap with
  | nil => exact .nil
  | cons s ss ih =>
    rw [List.map_cons]
    unfold wordsOf
    rw [any_isAlphanumeric_mend table]
    split
    · exact .cons ⟨rfl, rfl⟩ (ih ..)
    · rename_i silent
      have same : mend rules s = s := by rw [mend, replacement_of_silent table silent]
      rw [same]
      exact ih ..

theorem mends_words (offset offset' : Nat) (cs : List Char) :
    List.Forall₂ (Mends rules) (words offset cs) (words offset' (mended rules cs)) := by
  rw [words, words, segments_mended table]
  exact mends_wordsOf table offset offset' [] (segments cs)

theorem woven_wordsOf (offset : Nat) (gap : List Char) (ss : List (List Char)) :
    Woven offset ss.flatten (ss.map (mend rules)).flatten
      ((wordsOf offset gap ss).filterMap (Word.patch? rules)) := by
  induction ss generalizing offset gap with
  | nil => exact .nil offset
  | cons s ss ih =>
    rw [List.map_cons, List.flatten_cons, List.flatten_cons]
    unfold wordsOf
    split
    · cases hr : replacement rules s with
      | none =>
        rw [List.filterMap_cons_none (by rw [Word.patch?, hr]; rfl), mend, hr]
        exact .keep offset s _ _ _ (ih ..)
      | some v =>
        rw [List.filterMap_cons_some (by rw [Word.patch?, hr]; rfl), mend, hr]
        exact .swap offset s v.toList _ _ _ (ih ..)
    · rename_i silent
      rw [mend, replacement_of_silent table silent]
      exact .keep offset s _ _ _ (ih ..)

theorem woven_words (offset : Nat) (cs : List Char) :
    Woven offset cs (mended rules cs) ((words offset cs).filterMap (Word.patch? rules)) := by
  have h := woven_wordsOf table offset [] (segments cs)
  rwa [flatten_segments] at h

end

end Text

section

variable {keep : Rule → Bool} {q r : Rule} {p v : String} {w w' : Word} {ws ws' : List Word}

theorem mem_all_of_mem_filter (h : r ∈ Rule.all.filter keep) : r ∈ Rule.all :=
  (List.mem_filter.mp h).1

theorem replacement_filter {t : List Char} :
    replacement (Rule.all.filter keep) t = some v ↔
      ∃ r ∈ Rule.all.filter keep, ∃ p, r.phrase = [p] ∧ fold t = p.toList ∧ r.only? = some v :=
  replacement_eq_some_iff fun _ hr => mem_all_of_mem_filter hr

theorem eq_of_replacement (h : replacement (Rule.all.filter keep) w.text = some v)
    (hq : q ∈ Rule.all) (hp : p ∈ q.phrase) (spelled : w.spells p = true) : q.only? = some v := by
  obtain ⟨r, hr, p', hp', hf, hv⟩ := replacement_filter.mp h
  have hall := mem_all_of_mem_filter hr
  rw [Word.spells, beq_iff_eq, hf, String.toList_inj] at spelled
  subst spelled
  cases hph : q.phrase with
  | nil => exact (Rule.phrase_ne_nil hq hph).elim
  | cons p₀ ps =>
    rw [hph] at hp
    rcases List.mem_cons.mp hp with rfl | hp
    · rw [← Rule.eq_of_head hall hq (by rw [hp', hph]; rfl)]
      exact hv
    · have htail : p' ∈ q.phrase.tail := by rwa [hph]
      exact (Rule.head_ne_of_mem_tail hq htail hall (by rw [hp']; rfl)).elim

/-- What takes the place of a word is in no phrase at all. -/
theorem not_spells_of_mends (h : replacement (Rule.all.filter keep) w.text = some v)
    (mends : Mends (Rule.all.filter keep) w w') (hq : q ∈ Rule.all) (hp : p ∈ q.phrase) :
    w'.spells p = false := by
  obtain ⟨r, hr, _, _, _, hv⟩ := replacement_filter.mp h
  rw [Word.spells, mends.text, mend, h, beq_eq_false_iff_ne]
  exact Rule.fold_only_ne (mem_all_of_mem_filter hr) hv hq p hp

theorem text_of_mends (h : replacement (Rule.all.filter keep) w.text = none)
    (mends : Mends (Rule.all.filter keep) w w') : w'.text = w.text := by
  rw [mends.text, mend, h]

/-- Words are mended without a difference to the further words of a phrase. -/
theorem continuesWith_mends {ps : List String} (hq : q ∈ Rule.all)
    (hps : ∀ p ∈ ps, p ∈ q.phrase.tail)
    (mends : List.Forall₂ (Mends (Rule.all.filter keep)) ws ws') :
    continuesWith ps ws' = continuesWith ps ws := by
  induction ps generalizing ws ws' with
  | nil => rfl
  | cons p ps ih =>
    cases mends with
    | nil => rfl
    | @cons w w' ws ws' mends later =>
      have hp := hps p List.mem_cons_self
      have spells : w'.spells p = w.spells p := by
        cases h : replacement (Rule.all.filter keep) w.text with
        | none => rw [Word.spells, Word.spells, text_of_mends h mends]
        | some v =>
          have hmem := List.mem_of_mem_tail hp
          rw [not_spells_of_mends h mends hq hmem, eq_comm, Bool.eq_false_iff]
          intro spelled
          -- The phrase of a word that is replaced has no further words.
          have hv := eq_of_replacement h hq hmem spelled
          obtain ⟨p', hp', _⟩ := Rule.exists_word_of_only hq hv
          rw [hp'] at hp
          cases hp
      rw [continuesWith, continuesWith, mends.gap, spells,
        ih (fun p hp => hps p (List.mem_cons_of_mem _ hp)) later]

theorem matchesAt_mends (h : replacement (Rule.all.filter keep) w.text = none) (hq : q ∈ Rule.all)
    (mends : Mends (Rule.all.filter keep) w w')
    (later : List.Forall₂ (Mends (Rule.all.filter keep)) ws ws') :
    q.matchesAt (w' :: ws') = q.matchesAt (w :: ws) := by
  unfold Rule.matchesAt
  cases hph : q.phrase with
  | nil => rfl
  | cons p ps =>
    have further : continuesWith ps ws' = continuesWith ps ws :=
      continuesWith_mends hq (fun p hp => by rwa [hph]) later
    simp only [Word.spells, text_of_mends h mends, further]

/-- Among mended words the rules match that offer other than one word, where they did before. -/
theorem longestMatch_mends (mends : Mends (Rule.all.filter keep) w w')
    (later : List.Forall₂ (Mends (Rule.all.filter keep)) ws ws') :
    longestMatch (Rule.all.filter keep) (w' :: ws') =
      longestMatch (Rule.all.filter fun r => keep r && r.only?.isNone) (w :: ws) := by
  unfold longestMatch
  rw [List.filter_filter, List.filter_filter]
  congr 1
  refine List.filter_congr fun r hr => ?_
  rw [Bool.eq_iff_iff]
  simp only [Bool.and_eq_true, Option.isNone_iff_eq_none]
  cases h : replacement (Rule.all.filter keep) w.text with
  | none =>
    rw [matchesAt_mends h hr mends later]
    refine and_congr_right fun matched => ⟨fun kept => ⟨kept, ?_⟩, And.left⟩
    obtain ⟨p, hp, spelled⟩ := exists_head_of_matchesAt hr matched
    cases hv : r.only? with
    | none => rfl
    | some v =>
      obtain ⟨p', hp', _⟩ := Rule.exists_word_of_only hr hv
      rw [hp', List.head?_cons, Option.some.injEq] at hp
      subst hp
      rw [Word.spells, beq_iff_eq] at spelled
      have some : replacement (Rule.all.filter keep) w.text = some v :=
        replacement_filter.mpr ⟨r, List.mem_filter.mpr ⟨hr, kept⟩, p', hp', spelled, hv⟩
      rw [h] at some
      cases some
  | some v =>
    constructor
    · intro h'
      obtain ⟨p, hp, spelled⟩ := exists_head_of_matchesAt hr h'.1
      rw [not_spells_of_mends h mends hr (List.mem_of_mem_head? hp)] at spelled
      cases spelled
    · intro h'
      obtain ⟨matched, _, open_⟩ := h'
      obtain ⟨p, hp, spelled⟩ := exists_head_of_matchesAt hr matched
      rw [eq_of_replacement h hr (List.mem_of_mem_head? hp) spelled] at open_
      cases open_

def Match.said (m : Match) : Rule × List Char := (m.rule, m.text)

theorem text_congr (r : Rule)
    (h : List.Forall₂ (fun v v' : Word => v'.gap = v.gap ∧ v'.text = v.text) ws ws') :
    Match.text ⟨r, ws'⟩ = Match.text ⟨r, ws⟩ := by
  cases h with
  | nil => rfl
  | cons same later =>
    simp only [Match.text, same.2]
    congr 1
    induction later with
    | nil => rfl
    | cons same _ ih => rw [List.flatMap_cons, List.flatMap_cons, same.1, same.2, ih]

/-- In mended words the matches are found that were found for rules that offer other than one
word. -/
theorem said_scan_mends (mends : List.Forall₂ (Mends (Rule.all.filter keep)) ws ws') :
    (scan (Rule.all.filter keep) ws').map Match.said =
      (scan (Rule.all.filter fun r => keep r && r.only?.isNone) ws).map Match.said := by
  induction ws using scan.induct (Rule.all.filter fun r => keep r && r.only?.isNone)
    generalizing ws' with
  | case1 =>
    cases mends
    rw [scan, scan]
  | case2 w ws hl ih =>
    cases mends with
    | cons mends later =>
      rw [scan, scan, longestMatch_mends mends later, hl]
      exact ih later
  | case3 w ws r hl ih =>
    cases mends with
    | cons mends later =>
      rw [scan, scan, longestMatch_mends mends later, hl]
      simp only [List.map_cons]
      rw [ih (List.forall₂_drop _ later)]
      congr 1
      obtain ⟨hr, matched, _⟩ := of_longestMatch hl
      obtain ⟨hall, kept⟩ := List.mem_filter.mp hr
      have unmended : ∀ v ∈ (w :: ws).take r.phrase.length,
          replacement (Rule.all.filter keep) v.text = none := by
        intro v hv
        obtain ⟨p, hp, spelled⟩ :=
          exists_left_of_mem ((r.matchesAt_iff (w :: ws)).mp matched).1 hv
        cases h : replacement (Rule.all.filter keep) v.text with
        | none => rfl
        | some u =>
          rw [eq_of_replacement h hall hp spelled] at kept
          simp at kept
      have pairs := List.forall₂_take r.phrase.length (List.Forall₂.cons mends later)
      have same := (List.forall₂_and_left _ _ |>.mpr ⟨unmended, pairs⟩).imp
        fun v v' h => And.intro h.2.gap (text_of_mends h.1 h.2)
      rw [Match.said, Match.said, text_congr r same]

theorem patches_scan_of_only (ws : List Word) :
    (scan (Rule.all.filter fun r => keep r && r.only?.isSome) ws).filterMap Match.patch? =
      ws.filterMap (Word.patch? (Rule.all.filter keep)) := by
  induction ws using scan.induct (Rule.all.filter fun r => keep r && r.only?.isSome) with
  | case1 =>
    rw [scan]
    rfl
  | case2 w ws hl ih =>
    rw [scan, hl]
    have none : Word.patch? (Rule.all.filter keep) w = none := by
      cases h : replacement (Rule.all.filter keep) w.text with
      | none => rw [Word.patch?, h]; rfl
      | some v =>
        obtain ⟨r, hr, p, hp, hf, hv⟩ := replacement_filter.mp h
        obtain ⟨hall, kept⟩ := List.mem_filter.mp hr
        have hn := longestMatch_eq_none.mp hl r (List.mem_filter.mpr ⟨hall, by simp [kept, hv]⟩)
        simp [Rule.matchesAt, hp, Word.spells, hf, continuesWith] at hn
    rw [List.filterMap_cons_none none]
    exact ih
  | case3 w ws r hl ih =>
    rw [scan, hl]
    obtain ⟨hr, matched, _⟩ := of_longestMatch hl
    obtain ⟨hall, kept⟩ := List.mem_filter.mp hr
    simp only [Bool.and_eq_true, Option.isSome_iff_exists] at kept
    obtain ⟨kept, v, hv⟩ := kept
    obtain ⟨p, hp, _⟩ := Rule.exists_word_of_only hall hv
    have spelled : fold w.text = p.toList := by
      simpa [Rule.matchesAt, hp, Word.spells, continuesWith] using matched
    have some : replacement (Rule.all.filter keep) w.text = some v :=
      replacement_filter.mpr ⟨r, List.mem_filter.mpr ⟨hall, kept⟩, p, hp, spelled, hv⟩
    have patch : Word.patch? (Rule.all.filter keep) w = Match.patch? ⟨r, [w]⟩ := by
      simp [Word.patch?, Match.patch?, some, hv, Match.start, Match.stop]
    simp only [hp, List.length_singleton, Nat.sub_self, List.drop_zero, List.take_succ_cons,
      List.take_zero] at ih ⊢
    rw [List.filterMap_cons, List.filterMap_cons, ih, patch]

theorem patches_scan (ws : List Word) :
    (scan (Rule.all.filter keep) ws).filterMap Match.patch? =
      ws.filterMap (Word.patch? (Rule.all.filter keep)) := by
  rw [← patches_scan_of_only, scan_filter, scan_filter, List.filterMap_filter,
    List.filterMap_filter]
  refine List.filterMap_congr fun m _ => ?_
  cases hv : m.rule.only? with
  | none => simp [Match.patch?, hv]
  | some v => simp

end

end Considerate
