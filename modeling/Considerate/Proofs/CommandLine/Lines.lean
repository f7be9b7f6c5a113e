import Considerate.Proofs.CommandLine.Agreement
import Considerate.Proofs.Files
import Considerate.Proofs.Resolution

namespace Considerate

open Text Markup

section

variable {α : Type} [DecidableEq α] {a : α}

theorem length_splitOn (a : α) (xs : List α) : (xs.splitOn a).length = xs.count a + 1 := by
  induction xs with
  | nil => rfl
  | cons x xs ih =>
    rw [List.splitOn_cons_eq_if_modifyHead, List.count_cons]
    split <;> simp [ih]

/-- What stands before the first separator belongs to the first piece. -/
theorem exists_splitOn_append {xs : List α} (h : a ∉ xs) (ys : List α) :
    ∃ first more, (xs ++ ys).splitOn a = (xs ++ first) :: more := by
  induction xs with
  | nil => exact List.exists_cons_of_ne_nil (List.splitOnP_ne_nil _ _)
  | cons x xs ih =>
    obtain ⟨first, more, split⟩ := ih fun hx => h (List.mem_cons_of_mem x hx)
    have apart : (x == a) = false := beq_false_of_ne fun hx => h (hx ▸ List.mem_cons_self)
    refine ⟨first, more, ?_⟩
    rw [List.cons_append, List.splitOn_cons_eq_if_modifyHead, apart, if_neg Bool.false_ne_true,
      split, List.modifyHead_cons, List.cons_append]

/-- Texts with their ends are cut into the pieces of each, and nothing after the last end. -/
theorem splitOn_ended (a : α) (texts : List (List α)) :
    (texts.flatMap (· ++ [a])).splitOn a = texts.flatMap (·.splitOn a) ++ [[]] := by
  induction texts with
  | nil => rfl
  | cons t texts ih =>
    rw [List.flatMap_cons, List.append_assoc, List.singleton_append,
      List.splitOn_append_cons_self, ih, List.flatMap_cons, List.append_assoc]

theorem length_flatMap_splitOn (a : α) (texts : List (List α)) :
    (texts.flatMap (·.splitOn a)).length = texts.length + texts.flatten.count a := by
  induction texts with
  | nil => rfl
  | cons t texts ih =>
    rw [List.flatMap_cons, List.length_append, ih, length_splitOn, List.flatten_cons,
      List.count_append, List.length_cons]
    omega

/-- Texts are their own pieces if and only if there is nothing to cut. -/
theorem flatMap_splitOn_eq_iff (texts : List (List α)) :
    texts.flatMap (·.splitOn a) = texts ↔ ∀ t ∈ texts, a ∉ t := by
  constructor
  · intro whole t ht separated
    have lengths := congrArg List.length whole
    rw [length_flatMap_splitOn] at lengths
    have some : 0 < texts.flatten.count a :=
      List.count_pos_iff.mpr (List.mem_flatten_of_mem ht separated)
    omega
  · intro whole
    rw [List.flatMap_congr fun t ht => List.splitOn_eq_singleton (whole t ht),
      List.flatMap_singleton']

end

section

variable {s : Settings} {cs : List Char} {prose : List Span} {m : Match} {r : Rule}

/-- A reason has no line end of its own. -/
theorem Rule.count_reason (hr : r ∈ Rule.all) (actual : String) :
    (r.reason actual).toList.count '\n' = actual.toList.count '\n' := by
  have fixed : ∀ part ∈ ["`", "` may be insensitive, use ", " instead", "Don’t use `",
      "`, it’s profane", "Be careful with `", "`, it’s profane in some cases"],
      part.toList.count '\n' = 0 := by
    decide +kernel
  simp only [List.forall_mem_cons] at fixed
  have plain := feed_not_mem_suggestions hr
  unfold suggestions at plain
  unfold reason
  cases hk : r.kind with
  | insensitive suggestions | binary suggestions =>
    rw [hk] at plain
    have none : '\n' ∉ quoted (suggestions.map String.toList) :=
      not_mem_quoted (by decide) (List.forall_mem_map.mpr plain)
    have list : (", ".intercalate (suggestions.map fun w => "`" ++ w ++ "`")).toList =
        quoted (suggestions.map String.toList) := by
      simp [quoted, Function.comp_def]
    simp only [String.toList_append, List.count_append, list, List.count_eq_zero_of_not_mem none,
      fixed, Nat.zero_add, Nat.add_zero]
  | profanity sureness =>
    cases sureness <;>
      simp only [String.toList_append, List.count_append, fixed, Nat.zero_add, Nat.add_zero]

/-- Words are broken over lines only between two of them. -/
theorem one_lt_length_of_feed (h : m ∈ matchesIn s.rules cs prose) (feed : '\n' ∈ m.text) :
    1 < m.rule.phrase.length := by
  obtain ⟨hr, spelled, -⟩ := of_mem_matchesIn h
  have letters := Rule.letters_phrase (mem_all_of_rules hr)
  rw [spelled.length_eq]
  unfold Match.text at feed
  cases hw : m.words with
  | nil => simp [hw] at feed
  | cons w ws =>
    rw [hw] at feed spelled
    cases ws with
    | nil =>
      obtain ⟨p, hp, hs⟩ := exists_left_of_mem spelled List.mem_cons_self
      have plain := (w.not_lineEnd_of_spells hs (letters p hp)).2
      simp only [List.flatMap_nil, List.append_nil] at feed
      exact ((plain _ feed).1 rfl).elim
    | cons v ws => simp

end

namespace CommandLine

variable {files : Files} {s : Settings} {paths : List String}

/-- The message is about the match, which was found in the text of the file at the path. -/
structure FoundIn (files : Files) (s : Settings) (path : String) (message : Message)
    (m : Match) : Prop where
  found : ∃ text prose, files.read path = .ok text ∧
    (Filetype.ofPath path).profile.prose text.toList = .ok prose ∧
    m ∈ matchesIn s.rules text.toList prose ∧ m.message text.toList = some message

/-- The lines make up the record of the message. The first of them says where it is and how bad, and
there is one more for each line end in the matched text, which then has several words. -/
structure MakeUp (path : String) (message : Message) (m : Match) (lines : List (List Char)) :
    Prop where
  joined : ['\n'].intercalate lines = (FileReport.recordOf path message).toList
  length : lines.length = m.text.count '\n' + 1
  first : ∃ said, lines.head? = some (recordWith path (FileReport.startOf message).1.toNat
    (FileReport.startOf message).2.toNat (FileReport.severity message) said).toList
  broken : '\n' ∈ m.text → 1 < m.rule.phrase.length

theorem feed_not_mem_digits (n : Nat) : '\n' ∉ Nat.toDigits 10 n := by
  intro feed
  have digit := Nat.isDigit_of_mem_toDigits (by decide) (by decide) feed
  revert digit
  decide

theorem feed_not_mem_severity (message : Message) :
    '\n' ∉ (FileReport.severity message).toList := by
  unfold FileReport.severity
  split <;> decide

/-- The lines of a record, if its path has no line end. -/
theorem FoundIn.makeUp {path : String} {message : Message} {m : Match}
    (h : FoundIn files s path message m) (feedless : '\n' ∉ path.toList) :
    MakeUp path message m ((FileReport.recordOf path message).toList.splitOn '\n') := by
  obtain ⟨text, prose, -, -, found, about⟩ := h
  obtain ⟨-, reason, -⟩ := Match.of_message about
  have known := mem_all_of_rules (of_mem_matchesIn found).1
  have place : '\n' ∉ (recordWith path (FileReport.startOf message).1.toNat
      (FileReport.startOf message).2.toNat (FileReport.severity message) "").toList := by
    simp [recordWith, feedless, feed_not_mem_digits, feed_not_mem_severity]
  have record : (FileReport.recordOf path message).toList = (recordWith path
      (FileReport.startOf message).1.toNat (FileReport.startOf message).2.toNat
      (FileReport.severity message) "").toList ++ message.reason.toList := by
    simp [FileReport.recordOf, recordWith]
  constructor
  case joined => exact List.intercalate_splitOn '\n'
  case length =>
    rw [length_splitOn, record, List.count_append, List.count_eq_zero_of_not_mem place, reason,
      Rule.count_reason known, String.toList_ofList, Nat.zero_add]
  case first =>
    obtain ⟨first, more, split⟩ := exists_splitOn_append place message.reason.toList
    refine ⟨String.ofList first, ?_⟩
    rw [record, split, List.head?_cons]
    simp [recordWith]
  case broken => exact one_lt_length_of_feed found

theorem of_mem_reportsOf {r : FileReport} (h : r ∈ reportsOf files s paths) :
    r.path ∈ paths ∧ ∃ text, files.read r.path = .ok text ∧
      check s (Filetype.ofPath r.path).profile text = .ok r.messages := by
  obtain ⟨path, hp, linted⟩ := List.mem_filterMap.mp h
  unfold lintFile at linted
  cases read : files.read path with
  | error e => simp [read, Except.toOption] at linted
  | ok text =>
    cases checked : check s (Filetype.ofPath path).profile text with
    | error e => simp [read, checked, Except.toOption] at linted
    | ok ms =>
      simp only [read, checked, Except.toOption, Option.some.injEq] at linted
      subst linted
      exact ⟨hp, text, read, checked⟩

def problemsOf (rs : List FileReport) : List (String × Message) :=
  rs.flatMap fun r => r.messages.map (r.path, ·)

theorem exists_foundIn {problem : String × Message}
    (h : problem ∈ problemsOf (reportsOf files s paths)) :
    problem.1 ∈ paths ∧ ∃ m, FoundIn files s problem.1 problem.2 m := by
  obtain ⟨r, hr, hm⟩ := List.mem_flatMap.mp h
  obtain ⟨message, told, rfl⟩ := List.mem_map.mp hm
  obtain ⟨hp, text, read, checked⟩ := of_mem_reportsOf hr
  obtain ⟨-, prose, parsed, ms⟩ := of_check checked
  rw [ms] at told
  obtain ⟨m, found, about⟩ := List.mem_filterMap.mp told
  exact ⟨hp, m, text, prose, read, parsed, found, about⟩

def recordOfProblem (problem : String × Message) : List Char :=
  (FileReport.recordOf problem.1 problem.2).toList

/-- The last line of a text report, which says how many problems there are. -/
def summaryOf (rs : List FileReport) : String :=
  "Checked " ++ toString rs.length ++ " files, found " ++ toString (problemsOf rs).length ++
    " problems"

theorem summary_eq (rs : List FileReport) : FileReport.summary rs = summaryOf rs := by
  simp [FileReport.summary, summaryOf, problemsOf, List.length_flatMap]

theorem flatMap_records (rs : List FileReport) :
    (rs.flatMap FileReport.records).map String.toList = (problemsOf rs).map recordOfProblem := by
  simp [problemsOf, FileReport.records, List.map_flatMap, recordOfProblem, Function.comp_def]

theorem splitOn_toText (rs : List FileReport) :
    (FileReport.toText rs).toList.splitOn '\n' =
      (problemsOf rs).flatMap (fun p => (recordOfProblem p).splitOn '\n') ++
        [[], (summaryOf rs).toList, []] := by
  have summary : '\n' ∉ (summaryOf rs).toList := by
    simp [summaryOf, feed_not_mem_digits]
  have ended : (FileReport.toText rs).toList =
      ((problemsOf rs).map recordOfProblem ++ [[], (summaryOf rs).toList]).flatMap (· ++ ['\n']) := by
    rw [← flatMap_records]
    simp [FileReport.toText, FileReport.line, summary_eq, String.toList_join, List.flatMap_map]
  rw [ended, splitOn_ended, List.flatMap_append, List.flatMap_map]
  simp [List.splitOn_eq_singleton summary]

/-- The lines of a text report on files whose paths have no line end: those of each message in the
order of the files and of their messages, an empty line and the summary with the number of messages.
A message is about a match found in its file. It has just one line if the matched text has no line
end, so the messages have one line each if and only if no phrase was found broken over lines. -/
theorem lines_of_text (files : Files) (s : Settings)
    (feedless : ∀ path ∈ paths, '\n' ∉ path.toList) :
    let reports := reportsOf files s paths
    let problems := problemsOf reports
    let lines := (printed .text reports).toList.splitOn '\n'
    (∃ records, lines = records.flatten ++ [[], (summaryOf reports).toList, []] ∧
      List.Forall₂ (fun p ls => ∃ m, FoundIn files s p.1 p.2 m ∧ MakeUp p.1 p.2 m ls)
        problems records) ∧
    (lines = problems.map recordOfProblem ++ [[], (summaryOf reports).toList, []] ↔
      ∀ p ∈ problems, ∀ m, FoundIn files s p.1 p.2 m → '\n' ∉ m.text) ∧
    ∀ config, settingsFor files config = .ok s →
      (lint files config paths .text).output = printed .text reports := by
  intro reports problems lines
  have cut : lines = problems.flatMap (fun p => (recordOfProblem p).splitOn '\n') ++
      [[], (summaryOf reports).toList, []] := splitOn_toText reports
  have found : ∀ p ∈ problems, ∃ m, FoundIn files s p.1 p.2 m ∧
      MakeUp p.1 p.2 m ((recordOfProblem p).splitOn '\n') := by
    intro p hp
    obtain ⟨given, m, found⟩ := exists_foundIn hp
    exact ⟨m, found, found.makeUp (feedless p.1 given)⟩
  have feeds : ∀ p ∈ problems, ∀ m, FoundIn files s p.1 p.2 m →
      ('\n' ∈ recordOfProblem p ↔ '\n' ∈ m.text) := by
    intro p hp m about
    have length := (about.makeUp (feedless p.1 (exists_foundIn hp).1)).length
    rw [length_splitOn, Nat.add_right_cancel_iff] at length
    rw [← List.count_pos_iff, ← List.count_pos_iff, recordOfProblem, length]
  refine ⟨⟨problems.map fun p => (recordOfProblem p).splitOn '\n', cut, ?_⟩, ?_, ?_⟩
  · exact List.forall₂_map_right_iff.mpr (List.forall₂_same.mpr found)
  · rw [cut, List.append_left_inj, ← List.flatMap_map recordOfProblem, flatMap_splitOn_eq_iff,
      List.forall_mem_map]
    refine forall₂_congr fun p hp => ⟨fun whole m about => ?_, fun unbroken => ?_⟩
    · rwa [← feeds p hp m about]
    · obtain ⟨m, about, -⟩ := found p hp
      rw [feeds p hp m about]
      exact unbroken m about
  · intro config applies
    rw [lint, applies]

/-- The report on a file of this name under the usual settings. -/
theorem reportsOf_text {text : String} {ms : List Message}
    (checked : check {} .text text = .ok ms) :
    reportsOf { entries := [(["a.txt"], .text text)] } {} ["a.txt"] = [⟨"a.txt", ms⟩] := by
  have name : Path.IsName "a.txt" := ⟨by decide, by decide⟩
  have read : Files.read { entries := [(["a.txt"], .text text)] } "a.txt" = .ok text := by
    rw [Files.read, name.entry]
    rfl
  have type : Filetype.ofPath "a.txt" = .plainText := by
    rw [Filetype.ofPath, name.fileName, Path.extension, name.fileName, if_neg (by decide)]
    rfl
  have holds : Holds { entries := [(["a.txt"], .text text)] } "a.txt" ⟨text, 1, .plainText⟩ :=
    ⟨read, by rw [type]⟩
  apply reportsOf_singleton
  rw [holds.lintFile]
  simp only [Filetype.profile, checked]

/-- What a check of its text says of the report on the file. -/
theorem lines_of_check {text : String} {count : Nat} {lines : List (List Char)}
    (told : (check {} .text text).toOption.map (fun ms =>
      ((problemsOf [⟨"a.txt", ms⟩]).length,
        (printed .text [⟨"a.txt", ms⟩]).toList.splitOn '\n')) = some (count, lines)) :
    let reports := reportsOf { entries := [(["a.txt"], .text text)] } {} ["a.txt"]
    (problemsOf reports).length = count ∧ (printed .text reports).toList.splitOn '\n' = lines := by
  intro reports
  cases checked : check {} .text text with
  | error e => simp [checked, Except.toOption] at told
  | ok ms =>
    have eq : reports = [⟨"a.txt", ms⟩] := reportsOf_text checked
    rw [checked] at told
    rw [eq]
    exact Prod.mk.inj (Option.some.inj told)

/-- The message on a single word has one line. -/
theorem lines_of_text_guys :
    let files : Files := { entries := [(["a.txt"], .text "guys")] }
    (∀ path ∈ ["a.txt"], '\n' ∉ path.toList) ∧
    ∃ problem lines, problemsOf (reportsOf files {} ["a.txt"]) = [problem] ∧ lines.length = 1 ∧
      ∃ m, FoundIn files {} problem.1 problem.2 m ∧ MakeUp problem.1 problem.2 m lines := by
  intro files
  have feedless : ∀ path ∈ ["a.txt"], '\n' ∉ path.toList := by decide
  obtain ⟨one, told⟩ : (problemsOf (reportsOf files {} ["a.txt"])).length = 1 ∧
      (printed .text (reportsOf files {} ["a.txt"])).toList.splitOn '\n' = [
        "a.txt:1:1 warning `guys` may be insensitive, use `people`, `folks`, `everyone` instead",
        "", "Checked 1 files, found 1 problems", ""].map String.toList :=
    lines_of_check (by decide +kernel)
  obtain ⟨⟨records, cut, each⟩, -, -⟩ := lines_of_text files {} feedless
  obtain ⟨problem, only⟩ := List.length_eq_one_iff.mp one
  have lengths := congrArg List.length (cut.symm.trans told)
  rw [only] at each
  obtain ⟨lines, rest, found, last, rfl⟩ := List.forall₂_cons_left_iff.mp each
  cases List.forall₂_nil_left_iff.mp last
  refine ⟨feedless, problem, lines, only, ?_, found⟩
  simpa using lengths

/-- A message on words that are broken over lines has two lines, though it is one problem. The
second line does not say where it is. -/
theorem two_lines_of_sanity_check :
    let files : Files := { entries := [(["a.txt"], .text "sanity\ncheck")] }
    let reports := reportsOf files {} ["a.txt"]
    let lines := (printed .text reports).toList.splitOn '\n'
    let shown := [
      "a.txt:1:1 warning `sanity",
      "check` may be insensitive, use `confidence check`, `coherence check` instead",
      "", "Checked 1 files, found 1 problems", ""]
    '\n' ∉ "a.txt".toList ∧ Settings.conflicting {} = false ∧ (problemsOf reports).length = 1 ∧
    lines = shown.map String.toList ∧ lines.length ≠ (problemsOf reports).length + 3 := by
  intro files reports lines shown
  obtain ⟨one, told⟩ : (problemsOf reports).length = 1 ∧ lines = shown.map String.toList :=
    lines_of_check (by unfold shown; decide +kernel)
  have five : lines.length = 5 := congrArg List.length told
  refine ⟨by decide, rfl, one, told, ?_⟩
  rw [one, five]
  decide

end CommandLine

end Considerate
