import Considerate.Proofs.CommandLine.Agreement
import Considerate.Proofs.Encoding
import Considerate.Proofs.Files

namespace Considerate.CommandLine

variable {files : Files} {s : Settings} {path : String} {paths : List String}

/-- The file at a path cannot be linted: it cannot be read, or what is prose in it cannot be told. -/
inductive Fails (files : Files) (path : String) : FileFault → Prop
  | unreadable (e : FileError) (h : files.read path = .error e) : Fails files path (.unreadable e)
  | unparsed (text : String) (f : Markup.Failure) (read : files.read path = .ok text)
      (h : (Filetype.ofPath path).profile.prose text.toList = .error f) :
      Fails files path (.check (.unreadable f))

structure Gives (files : Files) (s : Settings) (r : FileReport) : Prop where
  checked : ∃ text prose, files.read r.path = .ok text ∧
    (Filetype.ofPath r.path).profile.prose text.toList = .ok prose ∧
    check s (Filetype.ofPath r.path).profile text = .ok r.messages

/-- Each path fails or has a report, in the order of the paths. -/
inductive Divided (files : Files) (s : Settings) :
    List String → List (String × FileFault) → List FileReport → Prop
  | nil : Divided files s [] [] []
  | fails {path : String} {fault : FileFault} (h : Fails files path fault) {paths : List String}
      {faults : List (String × FileFault)} {reports : List FileReport}
      (later : Divided files s paths faults reports) :
      Divided files s (path :: paths) ((path, fault) :: faults) reports
  | gives {r : FileReport} (h : Gives files s r) {paths : List String}
      {faults : List (String × FileFault)} {reports : List FileReport}
      (later : Divided files s paths faults reports) :
      Divided files s (r.path :: paths) faults (r :: reports)

structure Describes (j : Json) (r : FileReport) : Prop where
  path : j.get? "path" = some (.str r.path)
  messages : ∃ items, j.get? "messages" = some (.arr items) ∧
    items.mapM Message.decode = .ok r.messages

/-- What is told of the faults and of the reports. -/
structure Tells (format : Format) (faults : List (String × FileFault)) (reports : List FileReport)
    (o : Outcome) : Prop where
  code : o.code = if faults = [] ∧ ∀ r ∈ reports, r.messages = [] then 0 else 1
  failures : o.failures =
    if faults = [] then [] else
      (toString faults.length ++ " file(s) failed to lint:") ::
        faults.map fun (path, e) => "  " ++ path ++ ": " ++ e.message
  text : format = .text → o.output = String.join
    (((reports.flatMap fun r => r.messages.map (FileReport.recordOf r.path)) ++
      ["", "Checked " ++ toString reports.length ++ " files, found " ++
        toString (reports.flatMap FileReport.messages).length ++ " problems"]).map (· ++ "\n"))
  json : format = .json → ∃ objects, Json.read o.output = .ok (some (.arr objects)) ∧
    List.Forall₂ Describes objects reports

theorem divided (valid : s.conflicting = false) (files : Files) (paths : List String) :
    Divided files s paths (faultsOf files s paths) (reportsOf files s paths) := by
  induction paths with
  | nil => exact .nil
  | cons path paths ih =>
    have fails : ∀ fault, lintFile files s path = .error fault → Fails files path fault →
        Divided files s (path :: paths) (faultsOf files s (path :: paths))
          (reportsOf files s (path :: paths)) := by
      intro fault failed h
      have faults : faultsOf files s (path :: paths) = (path, fault) :: faultsOf files s paths := by
        simp [faultsOf, failed]
      have reports : reportsOf files s (path :: paths) = reportsOf files s paths := by
        simp [reportsOf, failed, Except.toOption]
      rw [faults, reports]
      exact .fails h ih
    cases read : files.read path with
    | error e => exact fails _ (by simp only [lintFile, read]) (.unreadable e read)
    | ok text =>
      cases parsed : (Filetype.ofPath path).profile.prose text.toList with
      | error f =>
        have failed : check s (Filetype.ofPath path).profile text = .error (.unreadable f) := by
          simp [check, valid, parsed]
        exact fails _ (by simp only [lintFile, read, failed]) (.unparsed text f read parsed)
      | ok prose =>
        have checked := check_eq valid parsed
        generalize (matchesIn s.rules text.toList prose).filterMap
          (Match.message text.toList) = ms at checked
        have linted : lintFile files s path = .ok ⟨path, ms⟩ := by
          simp only [lintFile, read, checked]
        have faults : faultsOf files s (path :: paths) = faultsOf files s paths := by
          simp [faultsOf, linted]
        have reports : reportsOf files s (path :: paths) = ⟨path, ms⟩ :: reportsOf files s paths := by
          simp [reportsOf, linted, Except.toOption]
        rw [faults, reports]
        exact .gives (r := ⟨path, ms⟩) ⟨text, prose, read, parsed, checked⟩ ih

theorem describes_toJson (r : FileReport) : Describes r.toJson r where
  path := rfl
  messages := by
    refine ⟨r.messages.map Message.toJson, rfl, ?_⟩
    exact Decode.list_map fun m _ => m.decode_toJson

theorem plain_toJson (r : FileReport) : Json.Plain r.toJson := by
  have keys : ["messages", "path"].Pairwise (· < ·) := by decide
  refine .object keys ?_
  simp only [List.forall_mem_cons, List.not_mem_nil, false_implies, implies_true, and_true]
  exact ⟨.arr _ (List.forall_mem_map.mpr fun m _ => m.plain_toJson), .str _⟩

theorem read_toJsonText (rs : List FileReport) :
    Json.read (FileReport.toJsonText rs) = .ok (some (.arr (rs.map FileReport.toJson))) := by
  have plain : Json.Plain (.arr (rs.map FileReport.toJson)) :=
    .arr _ (List.forall_mem_map.mpr fun r _ => plain_toJson r)
  have text : FileReport.toJsonText rs =
      String.ofList (Json.indented 0 (.arr (rs.map FileReport.toJson)) ++ ['\n']) := by
    rw [String.ofList_append]
    rfl
  rw [text]
  exact Json.read_of_written (plain.indented 0) (by simp [Json.Gap])

theorem tells (format : Format) (faults : List (String × FileFault)) (reports : List FileReport) :
    Tells format faults reports {
      code := if !faults.isEmpty || reports.any fun r => !r.messages.isEmpty then 1 else 0
      output := printed format reports
      failures := failureLines faults } where
  code := by
    have same : (!faults.isEmpty || reports.any fun r => !r.messages.isEmpty) = true ↔
        ¬ (faults = [] ∧ ∀ r ∈ reports, r.messages = []) := by
      cases faults <;> simp
    simp only [same, ite_not]
  failures := by simp [failureLines]
  text := by
    rintro rfl
    rfl
  json := by
    rintro rfl
    refine ⟨_, read_toJsonText reports, ?_⟩
    exact List.forall₂_map_left_iff.mpr (List.forall₂_same.mpr fun r _ => describes_toJson r)

theorem Tells.code_ne_two {format : Format} {faults : List (String × FileFault)}
    {reports : List FileReport} {o : Outcome} (h : Tells format faults reports o) : o.code ≠ 2 := by
  rw [h.code]
  split <;> decide

/-- The settings that apply come from the given file, else from the one in the current directory, and
are the usual ones if there is neither. -/
theorem settingsFor_eq (files : Files) (config : Option String) :
    settingsFor files config =
      ((config.or (Settings.discover files ".")).map (Settings.load files)).getD (.ok {}) := by
  cases config with
  | some path => rfl
  | none =>
    rw [settingsFor]
    cases Settings.discover files "." <;> rfl

theorem conflicting_of_settingsFor {config : Option String} (h : settingsFor files config = .ok s) :
    s.conflicting = false := by
  rw [settingsFor_eq] at h
  cases hs : config.or (Settings.discover files ".") with
  | none =>
    rw [hs] at h
    cases h
    rfl
  | some path =>
    rw [hs] at h
    exact Settings.conflicting_of_load h

theorem settingsFor_eq_error_iff {config : Option String} {e : SettingsError} :
    settingsFor files config = .error e ↔
      ∃ path, config.or (Settings.discover files ".") = some path ∧
        Settings.load files path = .error e := by
  rw [settingsFor_eq]
  cases config.or (Settings.discover files ".") <;> simp

/-- Linting ends with 2 and prints nothing if and only if the settings that apply cannot be loaded,
which are those of the given file, else of the one in the current directory. Else, without any
settings file under the usual settings, each path by itself fails or has a report, and whatever the
format is, the outcome tells just that. -/
theorem outcome_of_lint (files : Files) (config : Option String) (paths : List String) :
    let source := config.or (Settings.discover files ".")
    (∀ format, (lint files config paths format).code = 2 ↔
      ∃ path e, source = some path ∧ Settings.load files path = .error e) ∧
    (∀ format, (lint files config paths format).code = 2 →
      (lint files config paths format).output = "" ∧
        (lint files config paths format).failures = []) ∧
    (∀ s, (source.map (Settings.load files)).getD (.ok {}) = .ok s →
      ∃ faults reports, Divided files s paths faults reports ∧
        ∀ format, Tells format faults reports (lint files config paths format)) ∧
    ∀ args format verbose,
      Arguments.read args = .ok { command := .lint paths format, config, verbose } →
        run files args = lint files config paths format := by
  intro source
  have finished : ∀ s, settingsFor files config = .ok s → ∀ format,
      Tells format (faultsOf files s paths) (reportsOf files s paths)
        (lint files config paths format) := by
    intro s applies format
    rw [lint, applies]
    exact tells format (faultsOf files s paths) (reportsOf files s paths)
  refine ⟨fun format => ?_, fun format => ?_, fun s applies => ?_, fun args format verbose asked => ?_⟩
  · cases applies : settingsFor files config with
    | error e =>
      obtain ⟨path, given, failed⟩ := settingsFor_eq_error_iff.mp applies
      exact iff_of_true (by rw [lint, applies]) ⟨path, e, given, failed⟩
    | ok s =>
      refine iff_of_false (finished s applies format).code_ne_two ?_
      rintro ⟨path, e, given, failed⟩
      cases applies.symm.trans (settingsFor_eq_error_iff.mpr ⟨path, given, failed⟩)
  · intro two
    cases applies : settingsFor files config with
    | error e => simp [lint, applies]
    | ok s => exact ((finished s applies format).code_ne_two two).elim
  · rw [← settingsFor_eq] at applies
    exact ⟨_, _, divided (conflicting_of_settingsFor applies) files paths, finished s applies⟩
  · rw [run, asked]

/-- Two files, of which one is missing, with a settings file and without any files. -/
theorem outcome_of_lint_missing :
    let files : Files := {
      entries := [(["s.json"], .text "\x7b\x7d"), (["a.txt"], .text "guys")] }
    let args := ["-c", "s.json", "lint", "a.txt", "b.txt"]
    (((some "s.json").or (Settings.discover files ".")).map (Settings.load files)).getD (.ok {}) =
      .ok {} ∧
    Arguments.read args = .ok ⟨.lint ["a.txt", "b.txt"] .text, some "s.json", false⟩ ∧
    (∃ faults reports, Divided files {} ["a.txt", "b.txt"] faults reports ∧
      Tells .text faults reports (run files args)) ∧
    (lint {} (some "s.json") ["a.txt", "b.txt"] .json).code = 2 ∧
    (lint {} (some "s.json") ["a.txt", "b.txt"] .json).output = "" := by
  intro files args
  have name : Path.IsName "s.json" := ⟨by decide, by decide⟩
  have text : files.read "s.json" = .ok "\x7b\x7d" := by
    rw [Files.read, name.entry]
    rfl
  have missing : Files.read {} "s.json" = .error .notFound := by
    rw [Files.read, name.entry]
    rfl
  have plain : Json.Plain (.obj []) := .object .nil (by simp)
  have json : Json.read "\x7b\x7d" = .ok (some (.obj [])) := plain.read.1
  have loaded : Settings.load files "s.json" = .ok {} := by
    rw [Settings.load, text]
    simp only [Settings.ofText, json]
    rfl
  have failed : Settings.load {} "s.json" = .error (.unreadable .notFound) := by
    rw [Settings.load, missing]
  have asked : Arguments.read args =
      .ok ⟨.lint ["a.txt", "b.txt"] .text, some "s.json", false⟩ := by
    decide +kernel
  obtain ⟨-, -, told, started⟩ := outcome_of_lint files (some "s.json") ["a.txt", "b.txt"]
  obtain ⟨stops, silent, -, -⟩ := outcome_of_lint {} (some "s.json") ["a.txt", "b.txt"]
  obtain ⟨faults, reports, divided, tells⟩ := told {} loaded
  have two := (stops .json).mpr ⟨_, _, rfl, failed⟩
  refine ⟨loaded, asked, ⟨faults, reports, divided, ?_⟩, two, (silent .json two).1⟩
  rw [started args .text false asked]
  exact tells .text

end Considerate.CommandLine
