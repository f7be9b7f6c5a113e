import Considerate.Proofs.Replacement
import Considerate.Proofs.Session.Representation

namespace Considerate

open Text

/-- Taking a diagnostic out of what was found by linting leaves the others as they are. -/
theorem exists_left_of_lint {u : Url} {document : Option Document} {settings : Settings}
    {report : Report} (linted : lint u document settings = .ok report) {f : Findings}
    (stored : f.diagnostics = report.diagnostics) {x : Diagnostic} (hx : x ∈ report.diagnostics) :
    ∃ xs ys, report.diagnostics = xs ++ x :: ys ∧
      (f.remove [x] false none).diagnostics = xs ++ ys := by
  have wellFormed := Findings.WellFormed.of_lint linted none
  obtain ⟨k, _, coded⟩ := wellFormed.numbered x hx
  obtain ⟨xs, ys, split, left⟩ := (wellFormed.loses hx coded).diagnostics
  refine ⟨xs, ys, split, ?_⟩
  simp only [Findings.remove, stored] at left ⊢
  exact left

namespace Session

/-- A quick fix that has found a diagnostic, and takes it out when the diagnostics that are stored are
those of linting a plain text of less than 2³² - 1 bytes, leaves the others with their ranges. If it has
put a suggestion in the place of the words, a diagnostic that is left is still about its words, and
its range is that of these in the new text if the words come before those that were replaced, or if
there was no line end in the latter, and one between the two or as many columns as in the
suggestion. -/
theorem ranges_left_by_fix (u : Url) (d : Document) (settings : Settings) (report : Report)
    (x : Diagnostic) (as : List Action) (k : Nat)
    (linted : lint u (some d) settings = .ok report) (plain : d.filetype.profile = .text)
    (short : byteSize d.text.toList + 1 < UInt32.size)
    (stored : ((after as).store.findings u).diagnostics = report.diagnostics)
    (hx : x ∈ report.diagnostics)
    (takes : Makes u k (.remove [x] false none) (.finish (.applied true)) (after as) (.advance k)) :
    ∃ before rest code value, as = before ++ .advance k :: rest ∧ Finds u k code value x before ∧
      (∀ earlier later, rest = earlier ++ later →
        (after (before ++ .advance k :: earlier)).IsFixing k u x) ∧
      (value ∈ (report.fixesOf x).map QuickFix.value →
        report.Leaves settings d.text.toList x value.toList
          ((after (as ++ [.advance k])).store.findings u).diagnostics) := by
  obtain ⟨before, rest, code, value, split, finds, during⟩ :=
    finds_of_isFixing ⟨_, takes.there, rfl⟩
  refine ⟨before, rest, code, value, split, finds, during, fun suggested => ?_⟩
  obtain ⟨xs, ys, parts, left⟩ := exists_left_of_lint linted stored hx
  rw [takes.store, Store.change, Store.findings_set_self, left]
  exact Report.leaves_of_lint linted plain short parts suggested

def warning (code words : String) (range : Range) : Diagnostic where
  range := range
  message := "`" ++ words ++ "` may be insensitive"
  severity := some Diagnostic.severityWarning
  code := some (.text code)
  source := some Diagnostic.sourceName

/-- A longer word moves what follows it in its line, and not what stands in the next line. -/
theorem ranges_left_by_fix_in_line :
    let run := untilApplied notes "sanity check guys\nslave" "kindlint-1" "confidence check"
    let first := warning "kindlint-1" "sanity check" ⟨⟨0, 0⟩, ⟨0, 12⟩⟩
    let left := [warning "kindlint-2" "guys" ⟨⟨0, 13⟩, ⟨0, 17⟩⟩,
      warning "kindlint-3" "slave" ⟨⟨1, 0⟩, ⟨1, 5⟩⟩]
    ((after (run ++ [.advance 1])).store.findings notes).diagnostics = left ∧
    ∃ report, lint notes (some ⟨"sanity check guys\nslave", 1, .plainText⟩) {} = .ok report ∧
      report.diagnostics = first :: left ∧
      ∃ before rest code value, run = before ++ .advance 1 :: rest ∧
        Finds notes 1 code value first before ∧
        (∀ earlier later, rest = earlier ++ later →
          (after (before ++ .advance 1 :: earlier)).IsFixing 1 notes first) ∧
        (value ∈ (report.fixesOf first).map QuickFix.value →
          report.Leaves {} "sanity check guys\nslave".toList first value.toList
            ((after (run ++ [.advance 1])).store.findings notes).diagnostics) := by
  intro run first left
  have found : (lint notes (some ⟨"sanity check guys\nslave", 1, .plainText⟩) {}).toOption.elim []
      Report.diagnostics = first :: left := by with_unfolding_all rfl
  have stored : ((after run).store.findings notes).diagnostics = first :: left := by
    with_unfolding_all rfl
  have takes : Makes notes 1 (.remove [first] false none) (.finish (.applied true)) (after run)
      (.advance 1) := ⟨rfl, by with_unfolding_all rfl, by decide +kernel⟩
  refine ⟨by with_unfolding_all rfl, ?_⟩
  cases linted : lint notes (some ⟨"sanity check guys\nslave", 1, .plainText⟩) {} with
  | error e =>
    rw [linted] at found
    cases found
  | ok report =>
    rw [linted] at found
    have same : report.diagnostics = first :: left := found
    have mem : first ∈ report.diagnostics := by simp [same]
    refine ⟨report, rfl, same, ranges_left_by_fix notes _ {} report first run 1 linted rfl
      (by decide) (stored.trans same.symm) mem takes⟩

/-- A fix for words that are broken over two lines makes one line of these. The diagnostics that it
leaves keep ranges a line too far down, which are not those of their words in the new text. -/
theorem ranges_left_behind :
    let run := untilApplied notes "sanity\ncheck guys\nslave" "kindlint-1" "confidence check"
    let old : List Diagnostic := [warning "kindlint-1" "sanity\ncheck" ⟨⟨0, 0⟩, ⟨1, 5⟩⟩,
      warning "kindlint-2" "guys" ⟨⟨1, 6⟩, ⟨1, 10⟩⟩, warning "kindlint-3" "slave" ⟨⟨2, 0⟩, ⟨2, 5⟩⟩]
    (lint notes (some ⟨"sanity\ncheck guys\nslave", 1, .plainText⟩) {}).toOption.map
      Report.diagnostics = some old ∧
    ((after (run.take 19)).store.findings notes).diagnostics = old ∧
    (.applyEdit notes ⟨⟨⟨0, 0⟩, ⟨1, 5⟩⟩, "confidence check"⟩ : Call) ∈
      ((after (run.take 21)).act (.advance 1)).2.filterMap (fun | .called 1 c => some c | _ => none) ∧
    (Patch.mk ((Range.mk ⟨0, 0⟩ ⟨1, 5⟩).spanIn "sanity\ncheck guys\nslave".toList)
      "confidence check".toList).splice "sanity\ncheck guys\nslave".toList =
      "confidence check guys\nslave".toList ∧
    ((after (run ++ [.advance 1])).store.findings notes).diagnostics = old.tail ∧
    (lint notes (some ⟨"confidence check guys\nslave", 2, .plainText⟩) {}).toOption.map
      Report.diagnostics = some [warning "kindlint-1" "guys" ⟨⟨0, 17⟩, ⟨0, 21⟩⟩,
        warning "kindlint-2" "slave" ⟨⟨1, 0⟩, ⟨1, 5⟩⟩] := by
  refine ⟨?_, ?_, ?_, ?_, ?_, ?_⟩
  · with_unfolding_all rfl
  · with_unfolding_all rfl
  · have sent : ((after ((untilApplied notes "sanity\ncheck guys\nslave" "kindlint-1"
        "confidence check").take 21)).act (.advance 1)).2.filterMap
          (fun | .called 1 c => some c | _ => none) =
        [.applyEdit notes ⟨⟨⟨0, 0⟩, ⟨1, 5⟩⟩, "confidence check"⟩] := by with_unfolding_all rfl
    rw [sent]
    exact List.mem_singleton_self _
  · decide +kernel
  · with_unfolding_all rfl
  · with_unfolding_all rfl

end Session

end Considerate
