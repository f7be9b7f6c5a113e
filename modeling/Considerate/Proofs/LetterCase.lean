import Considerate.Proofs.Formatting
import Considerate.Proofs.Slices

namespace Considerate.Text

theorem toLower_eq_or (c : Char) : c.toLower = c ∨ ∃ n < 26, c = Char.ofNat (n + 65) := by
  delta Char.toLower
  split
  · rename_i upper
    have hA : 'A'.val.toNat = 65 := rfl
    have hZ : 'Z'.val.toNat = 90 := rfl
    have hc : c.toNat = c.val.toNat := rfl
    simp only [ge_iff_le, UInt32.le_iff_toNat_le] at upper
    refine Or.inr ⟨c.toNat - 65, by omega, ?_⟩
    rw [Nat.sub_add_cancel (by omega), Char.ofNat_toNat]
  · exact Or.inl rfl

/-- The characters are the same to a check, but for the letter case of what it quotes. -/
structure SameLetter (c d : Char) : Prop where
  word : WordClass.of c = WordClass.of d
  pictograph : isPictograph c = isPictograph d
  alphanumeric : isAlphanumeric c = isAlphanumeric d
  blank : isBlank c = isBlank d
  tagBlank : Markup.Html.isTagBlank c = Markup.Html.isTagBlank d
  folded : foldChar c = foldChar d
  lower : c.toLower = d.toLower
  columns : units c = units d

theorem sameLetter_toLower (c : Char) : SameLetter c.toLower c := by
  have letters : ∀ n < 26, let c := Char.ofNat (n + 65)
      WordClass.of c.toLower = WordClass.of c ∧ isPictograph c.toLower = isPictograph c ∧
      isAlphanumeric c.toLower = isAlphanumeric c ∧ isBlank c.toLower = isBlank c ∧
      Markup.Html.isTagBlank c.toLower = Markup.Html.isTagBlank c ∧
      foldChar c.toLower = foldChar c ∧ c.toLower.toLower = c.toLower ∧
      units c.toLower = units c := by
    decide +kernel
  rcases toLower_eq_or c with same | ⟨n, hn, rfl⟩
  · rw [same]
    exact ⟨rfl, rfl, rfl, rfl, rfl, rfl, rfl, rfl⟩
  · obtain ⟨word, pictograph, alphanumeric, blank, tagBlank, folded, lower, columns⟩ := letters n hn
    exact ⟨word, pictograph, alphanumeric, blank, tagBlank, folded, lower, columns⟩

@[simp] theorem class_toLower (c : Char) : WordClass.of c.toLower = WordClass.of c :=
  (sameLetter_toLower c).word

@[simp] theorem isPictograph_toLower (c : Char) : isPictograph c.toLower = isPictograph c :=
  (sameLetter_toLower c).pictograph

@[simp] theorem isAlphanumeric_toLower (c : Char) : isAlphanumeric c.toLower = isAlphanumeric c :=
  (sameLetter_toLower c).alphanumeric

@[simp] theorem isBlank_toLower (c : Char) : isBlank c.toLower = isBlank c :=
  (sameLetter_toLower c).blank

@[simp] theorem foldChar_toLower (c : Char) : foldChar c.toLower = foldChar c :=
  (sameLetter_toLower c).folded

@[simp] theorem toLower_toLower (c : Char) : c.toLower.toLower = c.toLower :=
  (sameLetter_toLower c).lower

theorem units_toLower (c : Char) : units c.toLower = units c :=
  (sameLetter_toLower c).columns

theorem Place.step_toLower (p : Place) (c : Char) : p.step c.toLower = p.step c := by
  simp (disch := decide) only [step, toLower_eq_iff, units_toLower]

@[simp] theorem lower_cons (c : Char) (cs : List Char) :
    lower (c :: cs) = c.toLower :: lower cs := rfl

@[simp] theorem fold_lower (cs : List Char) : fold (lower cs) = fold cs := by
  simp [fold, lower]

theorem Place.advance_lower (p : Place) (cs : List Char) (n : Nat) :
    p.advance (lower cs) n = p.advance cs n := by
  induction cs generalizing p n with
  | nil => rfl
  | cons c cs ih =>
    cases n with
    | zero => rfl
    | succ n => simp only [lower_cons, advance, utf8Size_toLower, Place.step_toLower, ih]

theorem placeAt_lower (cs : List Char) (n : Nat) : placeAt (lower cs) n = placeAt cs n :=
  Place.advance_lower ..

theorem dropBytes_lower (n : Nat) (cs : List Char) :
    dropBytes n (lower cs) = lower (dropBytes n cs) := by
  induction cs generalizing n with
  | nil => rfl
  | cons c cs ih =>
    simp only [lower_cons, dropBytes, utf8Size_toLower, ih]
    split <;> rfl

theorem takeBytes_lower (n : Nat) (cs : List Char) :
    takeBytes n (lower cs) = lower (takeBytes n cs) := by
  induction cs generalizing n with
  | nil => rfl
  | cons c cs ih =>
    simp only [lower_cons, takeBytes, utf8Size_toLower, ih]
    split <;> rfl

theorem Span.slice_lower (s : Span) (cs : List Char) : s.slice (lower cs) = lower (s.slice cs) := by
  rw [slice, slice, dropBytes_lower, takeBytes_lower]

theorem Before.push_toLower (b : Before) (c : Char) : b.push c.toLower = b.push c := by
  simp only [push, class_toLower, isPictograph_toLower]

theorem nextClass_lower (cs : List Char) : nextClass (lower cs) = nextClass cs := by
  induction cs with
  | nil => rfl
  | cons c cs ih => simp only [lower_cons, nextClass, class_toLower, ih]

theorem Before.isBoundary_lower (b : Before) (cs : List Char) :
    b.isBoundary (lower cs) = b.isBoundary cs := by
  cases cs with
  | nil => rfl
  | cons c cs =>
    simp only [lower_cons, isBoundary, continues, class_toLower, isPictograph_toLower,
      nextClass_lower]

theorem segmentsAfter_lower (b : Before) (cs : List Char) :
    segmentsAfter b (lower cs) = (segmentsAfter b cs).map lower := by
  induction cs generalizing b with
  | nil => rfl
  | cons c cs ih =>
    rw [lower_cons, segmentsAfter, segmentsAfter, b.push_toLower, ih]
    cases segmentsAfter (b.push c) cs with
    | nil => rfl
    | cons s ss =>
      simp only [List.map_cons, Before.isBoundary_lower]
      split <;> rfl

/-- The word with its gap in lower case. -/
def Word.lower (w : Word) : Word := ⟨Text.lower w.gap, w.start, Text.lower w.text⟩

@[simp] theorem Word.stop_lower (w : Word) : w.lower.stop = w.stop :=
  congrArg (w.start + ·) (byteSize_lower w.text)

@[simp] theorem Word.spells_lower (w : Word) (p : String) : w.lower.spells p = w.spells p := by
  rw [spells, spells, lower, fold_lower]

theorem any_isAlphanumeric_lower (cs : List Char) :
    (lower cs).any isAlphanumeric = cs.any isAlphanumeric := by
  simp [lower, Function.comp_def]

theorem all_isBlank_lower (cs : List Char) : (lower cs).all isBlank = cs.all isBlank := by
  simp [lower, Function.comp_def]

theorem wordsOf_lower (offset : Nat) (gap : List Char) (ss : List (List Char)) :
    wordsOf offset (lower gap) (ss.map lower) = (wordsOf offset gap ss).map Word.lower := by
  induction ss generalizing offset gap with
  | nil => rfl
  | cons s ss ih =>
    rw [List.map_cons, wordsOf, wordsOf, any_isAlphanumeric_lower, byteSize_lower]
    split
    · exact congrArg (List.cons _) (ih (offset + byteSize s) [])
    · rw [← lower_append, ih]

/-- The words of a lower-case copy are those of the text in lower case, at the same places. -/
theorem words_lower (offset : Nat) (cs : List Char) :
    words offset (lower cs) = (words offset cs).map Word.lower := by
  rw [words, segments, segmentsAfter_lower]
  exact wordsOf_lower offset [] _

end Considerate.Text

namespace Considerate.Markup.Html

open Text

variable {name cs : List Char}

theorem afterTagEnd_lower (cs : List Char) :
    afterTagEnd (lower cs) = (afterTagEnd cs).map lower := by
  induction cs with
  | nil => rfl
  | cons c cs ih =>
    rw [lower_cons, afterTagEnd, afterTagEnd, ih]
    simp (disch := decide) only [toLower_eq_iff]
    split <;> rfl

theorem startsWithName_lower (name cs : List Char) :
    startsWithName name (lower cs) = startsWithName name cs := by
  simp [startsWithName, lower, Function.comp_def]

theorem isTagBlank_toLower (c : Char) : isTagBlank c.toLower = isTagBlank c :=
  (sameLetter_toLower c).tagBlank

theorem opens_lower (name cs : List Char) : opens name (lower cs) = opens name cs := by
  rw [opens, opens, startsWithName_lower, lower, ← List.map_drop]
  cases cs.drop (name.length + 1) with
  | nil => rfl
  | cons c rest =>
    simp (disch := decide) only [List.map_cons, isTagBlank_toLower, toLower_eq_iff]

theorem fromClosing_lower (name cs : List Char) :
    fromClosing name (lower cs) = (fromClosing name cs).map lower := by
  induction cs with
  | nil => rfl
  | cons c cs ih =>
    rw [lower_cons, fromClosing, fromClosing, ← lower_cons, startsWithName_lower, ih]
    split <;> rfl

theorem afterSkipped_lower (cs : List Char) :
    afterSkipped (lower cs) = (afterSkipped cs).map lower := by
  unfold afterSkipped
  simp only [opens_lower, afterTagEnd_lower]
  cases afterTagEnd cs with
  | none => rfl
  | some rest =>
    cases rawElements.find? (opens · cs) with
    | none => rfl
    | some name =>
      simp only [Option.map_some, fromClosing_lower]
      cases fromClosing name rest with
      | none => rfl
      | some closing => exact afterTagEnd_lower closing

theorem run_lower (offset : Nat) (text : List Char) : run offset (lower text) = run offset text := by
  cases text with
  | nil => rfl
  | cons c text => rw [run, run, byteSize_lower, lower_cons, List.isEmpty_cons, List.isEmpty_cons]

theorem mem_lower_iff {c : Char} (hc : c.isAlpha = false) : c ∈ lower cs ↔ c ∈ cs := by
  simp [lower, toLower_eq_iff hc]

theorem first_lower (first : ∀ c ∈ cs.head?, c = '<') : ∀ c ∈ (lower cs).head?, c = '<' := by
  cases cs with
  | nil => exact nofun
  | cons c cs =>
    rw [first c rfl]
    intro d hd
    cases hd
    rfl

/-- The text runs of a lower-case copy are where they are in the document. -/
theorem runsFrom_lower (offset : Nat) (cs : List Char) :
    runsFrom offset (lower cs) = runsFrom offset cs := by
  obtain ⟨text, tail, he, plain, first, behind⟩ := text_cases cs
  have plain' : '<' ∉ lower text := mt (mem_lower_iff (by decide)).mp plain
  have skips := afterSkipped_lower tail
  subst he
  rw [lower_append]
  rcases behind with last | ⟨rest, some, shorter⟩
  · rw [last] at skips
    rw [runsFrom_last offset plain' (first_lower first) skips, runsFrom_last offset plain first last,
      run_lower]
  · obtain ⟨skipped, hd⟩ := suffix_of_afterSkipped some
    rw [some, ← hd, lower_append] at skips
    rw [← hd] at some first ⊢
    have first' := first_lower first
    rw [lower_append] at first' ⊢
    rw [runsFrom_append offset plain' first' skips, runsFrom_append offset plain first some,
      run_lower, byteSize_lower, byteSize_lower, runsFrom_lower _ rest]
termination_by cs.length

end Considerate.Markup.Html

namespace Considerate

open Text Markup

variable {rules : List Rule} {cs cs' : List Char} {prose : List Span}

/-- The match with its words in lower case. -/
def Match.lower (m : Match) : Match := ⟨m.rule, m.words.map Word.lower⟩

@[simp] theorem Match.rule_lower (m : Match) : m.lower.rule = m.rule := rfl

@[simp] theorem Match.start_lower (m : Match) : m.lower.start = m.start := by
  unfold start lower
  cases m.words <;> rfl

@[simp] theorem Match.stop_lower (m : Match) : m.lower.stop = m.stop := by
  unfold stop lower
  rw [List.getLast?_map]
  cases m.words.getLast? with
  | none => rfl
  | some w => exact w.stop_lower

theorem scan_lower (rules : List Rule) (ws : List Word) :
    scan rules (ws.map Word.lower) = (scan rules ws).map Match.lower :=
  scan_map Word.spells_lower (fun w => all_isBlank_lower w.gap) rules ws

/-- In a lower-case copy the same is found. -/
theorem matchesIn_lower (rules : List Rule) (cs : List Char) (prose : List Span) :
    matchesIn rules (lower cs) prose = (matchesIn rules cs prose).map Match.lower := by
  simp only [matchesIn, List.map_flatMap, Span.slice_lower, words_lower, scan_lower]

/-- What is found in two documents with the same lower-case copy differs in letter case only. -/
theorem forall₂_lower (same : lower cs = lower cs') (rules : List Rule) (prose : List Span) :
    List.Forall₂ (fun m m' : Match => m.lower = m'.lower) (matchesIn rules cs prose)
      (matchesIn rules cs' prose) := by
  have found : (matchesIn rules cs prose).map Match.lower =
      (matchesIn rules cs' prose).map Match.lower := by
    rw [← matchesIn_lower, ← matchesIn_lower, same]
  have h := List.forall₂_eq_eq_eq ▸ found
  rwa [List.forall₂_map_left_iff, List.forall₂_map_right_iff] at h

theorem prose_of_lower {profile : Profile} (plain : profile = .text ∨ profile = .html)
    (same : lower cs = lower cs') :
    ∃ prose, profile.prose cs = .ok prose ∧ profile.prose cs' = .ok prose := by
  rcases plain with rfl | rfl
  · refine ⟨_, rfl, ?_⟩
    rw [← byteSize_lower, same, byteSize_lower]
    rfl
  · refine ⟨_, rfl, ?_⟩
    rw [Html.prose, ← Html.runsFrom_lower, same, Html.runsFrom_lower]
    rfl

theorem placeAt_of_lower (same : lower cs = lower cs') (n : Nat) : placeAt cs n = placeAt cs' n := by
  rw [← placeAt_lower, same, placeAt_lower]

/-- The messages are on one match, and differ at most in the letter case of the text that they
quote. -/
structure Message.IsCaseOf (cs cs' : List Char) (message message' : Message) : Prop where
  ruleId : message.ruleId = message'.ruleId
  fatal : message.fatal = message'.fatal
  line : message.line = message'.line
  column : message.column = message'.column
  location : message.location = message'.location
  quoted : ∃ m : Match, Reports cs m message ∧ Reports cs' m message' ∧
    lower ((Span.mk m.start m.stop).slice cs) = lower ((Span.mk m.start m.stop).slice cs')

/-- A message on a match says as much on one that differs in letter case only. -/
theorem Reports.of_lower {m m' : Match} {message : Message} (h : Reports cs m' message)
    (same : m.lower = m'.lower) : Reports cs m message := by
  have rule := congrArg Match.rule same
  have start := congrArg Match.start same
  have stop := congrArg Match.stop same
  simp only [Match.rule_lower, Match.start_lower, Match.stop_lower] at rule start stop
  rwa [Reports, rule, start, stop]

theorem isCaseOf_of_reports {m : Match} {message message' : Message} (same : lower cs = lower cs')
    (h : Reports cs m message) (h' : Reports cs' m message') : message.IsCaseOf cs cs' message' := by
  have quoted : lower ((Span.mk m.start m.stop).slice cs) =
      lower ((Span.mk m.start m.stop).slice cs') := by
    rw [← Span.slice_lower, same, Span.slice_lower]
  obtain ⟨p, q, hp, hq, rfl⟩ := id h
  obtain ⟨p', q', hp', hq', rfl⟩ := id h'
  rw [placeAt_of_lower same] at hp hq
  cases hp.symm.trans hp'
  cases hq.symm.trans hq'
  exact ⟨rfl, rfl, rfl, rfl, rfl, m, h, h', quoted⟩

/-- Plain and HTML documents that differ in the case of Latin letters only are reported on alike:
there are as many messages, which differ in no more than the letter case of what they quote. -/
theorem check_ignores_case (s : Settings) (profile : Profile) (a b : String)
    (plain : profile = .text ∨ profile = .html) (valid : s.conflicting = false)
    (same : lower a.toList = lower b.toList) :
    ∃ messages messages', check s profile a = .ok messages ∧ check s profile b = .ok messages' ∧
      List.Forall₂ (Message.IsCaseOf a.toList b.toList) messages messages' := by
  have named : profile ≠ .markdown ∧ profile ≠ .mdx := by
    rcases plain with rfl | rfl <;> decide
  obtain ⟨prose, read, read'⟩ := prose_of_lower plain same
  obtain ⟨messages, checked, yields⟩ := exists_yields valid read (Profile.within_prose read named)
  obtain ⟨messages', checked', yields'⟩ :=
    exists_yields valid read' (Profile.within_prose read' named)
  refine ⟨messages, messages', checked, checked', ?_⟩
  have found := forall₂_lower same s.rules prose
  have pairs : List.Forall₂ (fun message m' => ∃ m : Match, m.lower = m'.lower ∧
      Reports a.toList m message) messages (matchesIn s.rules b.toList prose) :=
    forall₂_trans (fun _ m _ yields same => ⟨m, same, yields.reports⟩) yields.flip found
  refine forall₂_trans ?_ pairs yields'
  rintro message m' message' ⟨m, alike, reports⟩ yields'
  exact isCaseOf_of_reports same reports (yields'.reports.of_lower alike)

/-- A script is one however its tags are written. A Kelvin sign is found as a letter, but stays what it
is. -/
theorem check_ignores_case_of_tags :
    let a := "<SCRIPT >guys</Script>WHITElist blac\u212alist"
    let b := "<script >GUYS</sCRIPT>whitelist BLAC\u212aLIST"
    (Profile.html = .text ∨ Profile.html = .html) ∧ Settings.conflicting {} = false ∧
    lower a.toList = lower b.toList ∧
    ∃ messages messages', check {} .html a = .ok messages ∧ check {} .html b = .ok messages' ∧
      List.Forall₂ (Message.IsCaseOf a.toList b.toList) messages messages' := by
  intro a b
  have same : lower a.toList = lower b.toList := by decide +kernel
  exact ⟨Or.inr rfl, rfl, same, check_ignores_case {} .html a b (Or.inr rfl) rfl same⟩

end Considerate
