import Considerate.Check
import Considerate.Proofs.Scan

namespace Considerate

open Text Markup

variable {rules : List Rule} {ws : List Word} {m : Match} {message : Message} {s : Settings}
variable {cs : List Char} {prose : List Span}

theorem mem_all_of_rules {r : Rule} (h : r ∈ s.rules) : r ∈ Rule.all := (List.mem_filter.mp h).1

theorem of_mem_scan (h : m ∈ scan rules ws) :
    ∃ vs, longestMatch rules vs = some m.rule ∧ m.words = vs.take m.rule.phrase.length := by
  induction ws using scan.induct rules with
  | case1 => simp [scan] at h
  | case2 w ws hl ih =>
    rw [scan, hl] at h
    exact ih h
  | case3 w ws r hl ih =>
    rw [scan, hl] at h
    rcases List.mem_cons.mp h with rfl | h
    · exact ⟨w :: ws, hl, rfl⟩
    · exact ih h

/-- What is found has the phrase of its rule as its words, with white space only between them. -/
theorem of_mem_matchesIn (h : m ∈ matchesIn rules cs prose) :
    m.rule ∈ rules ∧ List.Forall₂ (fun p w => w.spells p = true) m.rule.phrase m.words ∧
      ∀ w ∈ m.words.tail, w.gap.all isBlank = true := by
  obtain ⟨_, _, hm⟩ := List.mem_flatMap.mp h
  obtain ⟨vs, hl, hw⟩ := of_mem_scan hm
  obtain ⟨hr, matched, _⟩ := of_longestMatch hl
  rw [hw]
  exact ⟨hr, (m.rule.matchesAt_iff vs).mp matched⟩

theorem matchesIn_whole (rules : List Rule) (cs : List Char) :
    matchesIn rules cs [⟨0, byteSize cs⟩] = scan rules (words 0 cs) := by
  have slice : (Span.mk 0 (byteSize cs)).slice cs = cs := by
    simpa [byteSize] using Span.slice_append [] cs []
  rw [matchesIn, List.flatMap_singleton, slice]

theorem Match.of_message (h : m.message cs = some message) :
    message.ruleId = m.rule.id ∧ message.reason = m.rule.reason (String.ofList m.text) ∧
      message.isError = m.rule.isFatal := by
  unfold Match.message at h
  split at h
  · cases h
    cases hf : m.rule.isFatal <;> exact ⟨rfl, rfl, rfl⟩
  · cases h

theorem check_eq {profile : Profile} {document : String} (valid : s.conflicting = false)
    (read : profile.prose document.toList = .ok prose) :
    check s profile document = .ok
      ((matchesIn s.rules document.toList prose).filterMap (Match.message document.toList)) := by
  simp [check, valid, read]

/-- A check that does not fail has read the document, and the settings do not contradict
themselves. -/
theorem of_check {profile : Profile} {document : String} {messages : List Message}
    (h : check s profile document = .ok messages) :
    s.conflicting = false ∧ ∃ prose, profile.prose document.toList = .ok prose ∧
      messages = (matchesIn s.rules document.toList prose).filterMap
        (Match.message document.toList) := by
  unfold check at h
  cases hs : s.conflicting with
  | true => simp [hs] at h
  | false =>
    cases hp : profile.prose document.toList with
    | error f => simp [hs, hp] at h
    | ok prose =>
      simp only [hs, hp, Bool.false_eq_true, if_false, Except.ok.injEq] at h
      exact ⟨rfl, prose, rfl, h.symm⟩

end Considerate
