import Considerate.CommandLine.Run
import Considerate.Proofs.Ranges
import Considerate.Proofs.Suggestions

namespace Considerate

open Text Markup

/-- A message starts at a place, which it gives twice. -/
structure Message.StartsAt (m : Message) (p : Place) : Prop where
  line : m.line = some (.ofNat p.line)
  column : m.column = some (.ofNat p.column)
  start : m.location.start = .ofPlace p

theorem Match.startsAt {m : Match} {cs : List Char} {message : Message}
    (h : m.message cs = some message) : ∃ p, placeAt cs m.start = some p ∧ message.StartsAt p := by
  unfold Match.message at h
  split at h
  · rename_i p _ hp _
    cases h
    refine ⟨p, hp, ?_⟩
    cases m.rule.isFatal <;> exact ⟨rfl, rfl, rfl⟩
  · cases h

/-- A number from 1 as one from 0, where it is its own substitute. -/
theorem toNat_fromZero_self (n : UInt32) : (fromZero (some n) (some n)).toNat = n.toNat - 1 := by
  by_cases h : n = 0
  · subst h
    rfl
  · rw [fromZero, if_neg h, UInt32.toNat_sub_of_le]
    · rfl
    · rw [UInt32.le_iff_toNat_le]
      have : n.toNat ≠ 0 := fun he => h (UInt32.toNat_inj.mp he)
      exact Nat.one_le_iff_ne_zero.mpr this

variable {m : Message} {p : Place}

theorem Message.StartsAt.startOf (h : m.StartsAt p) :
    CommandLine.FileReport.startOf m = (.ofNat p.line, .ofNat p.column) := by
  rw [CommandLine.FileReport.startOf, h.start]
  rfl

/-- A diagnostic starts one line and one column before what the command line prints. -/
theorem Message.StartsAt.position (h : m.StartsAt p) (index : Nat) :
    let start := (Diagnostic.ofMessage index m).range.start
    start.line.toNat = (UInt32.ofNat p.line).toNat - 1 ∧
      start.character.toNat = (UInt32.ofNat p.column).toNat - 1 := by
  simp only [Diagnostic.ofMessage, Point.position, h.start, Point.ofPlace, h.line, h.column]
  exact ⟨toNat_fromZero_self _, toNat_fromZero_self _⟩

/-- Messages of a check start at places, whose numbers are not 0 in a short document. -/
theorem startsAt_of_check {s : Settings} {profile : Profile} {document : String}
    {messages : List Message} (h : check s profile document = .ok messages) (hm : m ∈ messages) :
    ∃ p, m.StartsAt p ∧ (byteSize document.toList < UInt32.size →
      1 ≤ (UInt32.ofNat p.line).toNat ∧ 1 ≤ (UInt32.ofNat p.column).toNat) := by
  obtain ⟨_, prose, _, rfl⟩ := of_check h
  obtain ⟨found, hf, hmsg⟩ := List.mem_filterMap.mp hm
  obtain ⟨p, hp, starts⟩ := Match.startsAt hmsg
  refine ⟨p, starts, fun small => ?_⟩
  obtain ⟨p', q, hp', _, ends, _⟩ := exists_places small hf hmsg
  cases hp.symm.trans hp'
  have le := ends.le
  have stop := ends.stopLine
  have hl : p.line < UInt32.size := by
    unfold Place.Le at le
    omega
  rw [UInt32.toNat_ofNat_of_lt' hl, UInt32.toNat_ofNat_of_lt' ends.startColumn]
  exact ⟨ends.line, ends.column⟩

theorem Rule.suggestions_eq_nil_iff {r : Rule} (hr : r ∈ Rule.all) :
    r.suggestions = [] ↔ ∃ sureness, r.kind = .profanity sureness := by
  constructor
  · intro h
    have table : ∀ r ∈ Rule.all, r.suggestions = [] →
        ∃ sureness ∈ Sureness.all, r.kind = .profanity sureness := by
      decide +kernel
    obtain ⟨sureness, -, hk⟩ := table r hr h
    exact ⟨sureness, hk⟩
  · rintro ⟨sureness, hk⟩
    rw [Rule.suggestions, hk]

theorem Rule.reason_eq_statement_iff {r : Rule} (hr : r ∈ Rule.all) (actual : String) :
    r.reason actual = r.statement actual ↔ r.suggestions = [] := by
  rw [suggestions_eq_nil_iff hr]
  have suggesting : "` may be insensitive, use " = "` may be insensitive" ++ ", use " := by decide
  cases hk : r.kind with
  | insensitive suggestions | binary suggestions =>
    simp only [reason, statement, hk, suggesting, String.append_assoc, reduceCtorEq, exists_false,
      iff_false]
    intro h
    have lengths := congrArg String.length h
    simp only [String.length_append] at lengths
    have mark : ", use ".length = 6 := by decide
    omega
  | profanity sureness => simp [statement, hk]

theorem Rule.exists_behind (r : Rule) (actual : String) :
    ∃ behind, r.reason actual = r.statement actual ++ behind := by
  have suggesting : "` may be insensitive, use " = "` may be insensitive" ++ ", use " := by decide
  cases hk : r.kind with
  | insensitive suggestions | binary suggestions =>
    simp only [reason, statement, hk, suggesting, String.append_assoc]
    exact ⟨_, rfl⟩
  | profanity sureness =>
    exact ⟨"", by simp [statement, hk]⟩

namespace CommandLine

def recordWith (path : String) (line column : Nat) (severity reason : String) : String :=
  path ++ ":" ++ toString line ++ ":" ++ toString column ++ " " ++ severity ++ " " ++ reason

/-- The record of a message says the same as its diagnostic, for which `fixes` are offered. What is
printed counts from 1, in 32 bits; a number that has run over is 0, which no text is long enough for
that has fewer bytes. -/
structure Agrees (path text : String) (fixes : Fixes) (d : Diagnostic) (m : Message) : Prop where
  record : FileReport.recordOf path m =
    recordWith path (FileReport.startOf m).1.toNat (FileReport.startOf m).2.toNat
      (if d.severity = some Diagnostic.severityError then "error" else "warning") m.reason
  line : d.range.start.line.toNat = (FileReport.startOf m).1.toNat - 1
  column : d.range.start.character.toNat = (FileReport.startOf m).2.toNat - 1
  counted : byteSize text.toList < UInt32.size →
    (FileReport.startOf m).1.toNat = d.range.start.line.toNat + 1 ∧
    (FileReport.startOf m).2.toNat = d.range.start.character.toNat + 1
  reason : ∃ behind, m.reason = d.message ++ behind
  complete : m.reason = d.message ↔ d.codeText.bind fixes.get? = none

theorem severity_eq (k : Nat) (m : Message) :
    FileReport.severity m =
      if (Diagnostic.ofMessage k m).severity = some Diagnostic.severityError then "error"
      else "warning" := by
  have apart : Diagnostic.severityWarning ≠ Diagnostic.severityError := by decide
  cases he : m.isError <;> simp [FileReport.severity, Diagnostic.ofMessage, he, apart]

variable {s : Settings} {profile : Profile} {path text : String} {ms : List Message}

theorem agrees_ofMessage (filetype : Filetype) (h : check s profile text = .ok ms) {k : Nat}
    (hm : ms[k]? = some m) :
    Agrees path text (Report.ofMessages filetype s ms).fixes (.ofMessage k m) m := by
  have mem := List.mem_of_getElem? hm
  obtain ⟨r, hr, actual, -, hreason, herror, taken⟩ := exists_rule_of_message h mem
  obtain ⟨p, starts, small⟩ := startsAt_of_check h mem
  have said : (Diagnostic.ofMessage k m).message = r.statement actual := by
    simp [Diagnostic.ofMessage, taken]
  obtain ⟨hl, hc⟩ := starts.position k
  constructor
  case record => rw [← severity_eq, FileReport.recordOf, recordWith]
  case line => rw [starts.startOf, hl]
  case column => rw [starts.startOf, hc]
  case counted =>
    intro short
    obtain ⟨line, column⟩ := small short
    rw [starts.startOf, hl, hc]
    exact ⟨(Nat.sub_add_cancel line).symm, (Nat.sub_add_cancel column).symm⟩
  case reason =>
    rw [hreason, said]
    exact r.exists_behind actual
  case complete =>
    rw [hreason, said, Rule.reason_eq_statement_iff (mem_all_of_rules hr)]
    have shows : Shows (Report.ofMessages filetype s ms) k r actual :=
      shows_ofMessages hm herror taken
    have keyed := shows.keyed
    rw [Option.isSome_iff_exists.symm.trans Option.isSome_iff_ne_none] at keyed
    exact (not_iff_not.mp keyed).symm

theorem forall₂_agrees (filetype : Filetype) (h : check s profile text = .ok ms) :
    List.Forall₂ (Agrees path text (Report.ofMessages filetype s ms).fixes)
      (Report.ofMessages filetype s ms).diagnostics ms := by
  rw [List.forall₂_iff_get]
  refine ⟨List.length_mapIdx, fun k hd hm => ?_⟩
  have same : (Report.ofMessages filetype s ms).diagnostics.get ⟨k, hd⟩ =
      .ofMessage k (ms.get ⟨k, hm⟩) := List.getElem_mapIdx ..
  rw [same]
  exact agrees_ofMessage filetype h (List.getElem?_eq_getElem hm)

/-- A file with the text of a document, of a type that is read in the same way. -/
structure Holds (files : Files) (path : String) (d : Document) : Prop where
  text : files.read path = .ok d.text
  profile : (Filetype.ofPath path).profile = d.filetype.profile

variable {files : Files} {d : Document}

theorem Holds.lintFile (holds : Holds files path d) (s : Settings) :
    lintFile files s path = match check s d.filetype.profile d.text with
      | .error e => .error (.check e)
      | .ok ms => .ok ⟨path, ms⟩ := by
  cases checked : check s d.filetype.profile d.text with
  | error e => simp only [CommandLine.lintFile, holds.text, holds.profile, checked]
  | ok ms => simp only [CommandLine.lintFile, holds.text, holds.profile, checked]

theorem reportsOf_singleton {r : FileReport} (h : CommandLine.lintFile files s path = .ok r) :
    reportsOf files s [path] = [r] := by
  rw [reportsOf, List.filterMap_cons, h]
  rfl

/-- The command line and the editor are told the same. A document of an editor cannot be checked if
and only if the file with its text cannot; else the file has a record for each diagnostic, in the
same order, and the two agree. The JSON report has the messages of these records. -/
theorem agrees_with_editor (holds : Holds files path d) (url : Url) (s : Settings) :
    (∀ cause, Considerate.lint url (some d) s = .error (.check cause) ↔
      CommandLine.lintFile files s path = .error (.check cause)) ∧
    ((∃ e, Considerate.lint url (some d) s = .error e) ↔
      ∃ e, CommandLine.lintFile files s path = .error e) ∧
    (∀ report, Considerate.lint url (some d) s = .ok report →
      ∃ ms, CommandLine.lintFile files s path = .ok ⟨path, ms⟩ ∧
        printed .text (reportsOf files s [path]) = String.join
          ((ms.map (FileReport.recordOf path) ++ ["", FileReport.summary [⟨path, ms⟩]]).map
            FileReport.line) ∧
        printed .json (reportsOf files s [path]) = FileReport.line (Json.pretty
          (.arr [.obj [("messages", .arr (ms.map Message.toJson)), ("path", .str path)]])) ∧
        List.Forall₂ (Agrees path d.text report.fixes) report.diagnostics ms) ∧
    ∀ config, settingsFor files config = .ok s → ∀ format,
      (lint files config [path] format).output = printed format (reportsOf files s [path]) := by
  have read := holds.lintFile s
  have outcome : ∀ config, settingsFor files config = .ok s → ∀ format,
      (lint files config [path] format).output = printed format (reportsOf files s [path]) := by
    intro config applies format
    rw [lint, applies]
  cases hc : check s d.filetype.profile d.text with
  | error e =>
    rw [hc] at read
    have failed : Considerate.lint url (some d) s = .error (.check e) := by
      simp only [Considerate.lint, hc]
    rw [read, failed]
    refine ⟨fun cause => ?_, ⟨fun _ => ⟨_, rfl⟩, fun _ => ⟨_, rfl⟩⟩, by simp, outcome⟩
    simp only [Except.error.injEq, LintError.check.injEq, FileFault.check.injEq]
  | ok ms =>
    rw [hc] at read
    have linted : Considerate.lint url (some d) s = .ok (.ofMessages d.filetype s ms) := by
      simp only [Considerate.lint, hc]
    rw [read, linted]
    refine ⟨fun cause => by simp, by simp, fun report h => ?_, outcome⟩
    cases h
    refine ⟨ms, rfl, ?_, ?_, forall₂_agrees d.filetype hc⟩
    · rw [reportsOf_singleton read, printed, FileReport.toText, List.flatMap_singleton]
      rfl
    · rw [reportsOf_singleton read]
      rfl

/-- A file with a profanity, which has no quick fix, and a word that has three. -/
theorem agrees_with_editor_crap :
    Holds { entries := [(["a.txt"], .text "Crap, guys")] } "a.txt"
      ⟨"Crap, guys", 1, .plainText⟩ ∧
    ∃ report ms,
      Considerate.lint { scheme := "file", path := .segments ["a.txt"] }
        (some ⟨"Crap, guys", 1, .plainText⟩) {} = .ok report ∧
      CommandLine.lintFile { entries := [(["a.txt"], .text "Crap, guys")] } {} "a.txt" =
        .ok ⟨"a.txt", ms⟩ ∧
      ms.map (FileReport.recordOf "a.txt") =
        ["a.txt:1:1 error Don’t use `Crap`, it’s profane",
          "a.txt:1:7 warning `guys` may be insensitive, " ++
            "use `people`, `folks`, `everyone` instead"] ∧
      List.Forall₂ (Agrees "a.txt" "Crap, guys" report.fixes) report.diagnostics ms := by
  have parts : "a.txt".splitOn "/" = ["a.txt"] := by
    rw [String.splitOn, if_neg (by decide)]
    iterate 5 rw [String.splitOnAux, if_neg (by decide +kernel), if_neg (by decide +kernel)]
    rw [String.splitOnAux, if_pos (by decide +kernel)]
    decide
  have relative : "a.txt".startsWith "/" = false := by
    decide +kernel
  have text : Files.read { entries := [(["a.txt"], .text "Crap, guys")] } "a.txt" =
      .ok "Crap, guys" := by
    simp [Files.read, Files.entry, parts, relative, Files.follow, Files.find?, List.isPrefixOf]
  have name : Path.fileName "a.txt" = some "a.txt" := by
    simp [Path.fileName, Path.names, parts]
  have extension : Path.extension "a.txt" = some "txt" := by
    simp [Path.extension, name, Path.splitAtLastDot]
  have type : Filetype.ofPath "a.txt" = .plainText := by
    rw [Filetype.ofPath, name, extension, if_neg (by decide)]
    rfl
  have holds : Holds { entries := [(["a.txt"], .text "Crap, guys")] } "a.txt"
      ⟨"Crap, guys", 1, .plainText⟩ := ⟨text, by rw [type]⟩
  have records : (check {} .text "Crap, guys").toOption.map
      (·.map (FileReport.recordOf "a.txt")) = some
        ["a.txt:1:1 error Don’t use `Crap`, it’s profane",
          "a.txt:1:7 warning `guys` may be insensitive, " ++
            "use `people`, `folks`, `everyone` instead"] := by
    decide +kernel
  obtain ⟨ms, hc⟩ : ∃ ms, check {} .text "Crap, guys" = .ok ms := by
    cases hc : check {} .text "Crap, guys" with
    | ok ms => exact ⟨ms, rfl⟩
    | error e =>
      rw [hc] at records
      cases records
  have linted : Considerate.lint { scheme := "file", path := .segments ["a.txt"] }
      (some ⟨"Crap, guys", 1, .plainText⟩) {} = .ok (.ofMessages .plainText {} ms) := by
    simp only [Considerate.lint, Filetype.profile, hc]
  obtain ⟨-, -, agree, -⟩ :=
    agrees_with_editor holds { scheme := "file", path := .segments ["a.txt"] } {}
  obtain ⟨ms', read, -, -, agrees⟩ := agree _ linted
  have checked := holds.lintFile {}
  simp only [Filetype.profile, hc] at checked
  cases checked.symm.trans read
  rw [hc] at records
  exact ⟨holds, _, ms, linted, read, Option.some.inj records, agrees⟩

end CommandLine

end Considerate
