import Considerate.Lint
import Considerate.Proofs.Findings
import Considerate.Proofs.Messages
import Considerate.Proofs.Reason
import Considerate.Proofs.Rules

namespace Considerate

open Text Markup

/-- What a reason says before it comes to suggestions. -/
def Rule.statement (r : Rule) (actual : String) : String :=
  match r.kind with
  | .insensitive _ | .binary _ => "`" ++ actual ++ "` may be insensitive"
  | .profanity _ => r.reason actual

/-- A reason is taken apart into what it was made of. -/
theorem ofText_reason (r : Rule) {actual : String}
    (plain : ∀ s ∈ r.suggestions, '`' ∉ s.toList ∧ ¬ suggestionMark <:+: s.toList)
    (unmarked : ¬ suggestionMark <:+: actual.toList) :
    Reason.ofText (r.reason actual) = ⟨r.statement actual, r.suggestions⟩ := by
  obtain ⟨id, phrase, kind⟩ := r
  cases kind with
  | insensitive suggestions | binary suggestions => exact ofText_suggesting plain unmarked
  | profanity sureness =>
    exact ofText_of_unmarked (not_infix_profane id phrase sureness unmarked)

theorem exists_behind_statement (r : Rule) {actual : String}
    (unmarked : ¬ suggestionMark <:+: actual.toList) :
    ¬ suggestionMark <:+: (r.statement actual).toList ∧
      ∃ behind, r.reason actual = r.statement actual ++ behind ∧
        (behind = "" ∨ suggestionMark <+: behind.toList) := by
  obtain ⟨id, phrase, kind⟩ := r
  cases kind with
  | insensitive suggestions | binary suggestions =>
    refine ⟨not_infix_suggesting unmarked,
      ", use " ++ ", ".intercalate (suggestions.map fun w => "`" ++ w ++ "`") ++ " instead", ?_, ?_⟩
    · have h : "` may be insensitive, use " = "` may be insensitive" ++ ", use " := by decide
      simp only [Rule.reason, Rule.statement, h, String.append_assoc]
    · right
      rw [String.append_assoc, String.toList_append]
      exact List.IsPrefix.trans (by decide) (List.prefix_append ..)
  | profanity sureness =>
    exact ⟨not_infix_profane id phrase sureness unmarked, "", by simp [Rule.statement], Or.inl rfl⟩

theorem comma_not_mem_of_spells {w : Word} {p : String} (h : w.spells p = true)
    (hp : ',' ∉ p.toList) : ',' ∉ w.text := by
  simp only [Word.spells, beq_iff_eq] at h
  intro hc
  apply hp
  rw [← h]
  exact List.mem_map.mpr ⟨',', hc, by decide⟩

theorem comma_not_mem_of_blank {cs : List Char} (h : cs.all isBlank = true) : ',' ∉ cs := by
  intro hc
  have hb := List.all_eq_true.mp h ',' hc
  cases hb

variable {rules : List Rule} {cs : List Char} {prose : List Span} {m : Match}

/-- The text of a match has no comma: its words are those of a phrase, in some letter case, and
there is only white space between them. -/
theorem comma_not_mem_text (hr : m.rule ∈ Rule.all) (h : m ∈ matchesIn rules cs prose) :
    ',' ∉ m.text := by
  obtain ⟨_, spelled, blank⟩ := of_mem_matchesIn h
  have plain : ∀ w ∈ m.words, ',' ∉ w.text := by
    intro w hw
    obtain ⟨p, hp, hs⟩ := exists_left_of_mem spelled hw
    exact comma_not_mem_of_spells hs (Rule.comma_not_mem_phrase hr p hp)
  unfold Match.text
  cases hw : m.words with
  | nil => simp
  | cons w ws =>
    rw [hw] at plain blank
    simp only [List.mem_append, List.mem_flatMap, not_or, not_exists, not_and]
    refine ⟨plain w List.mem_cons_self, ?_⟩
    intro v hv
    exact ⟨comma_not_mem_of_blank (blank v hv), plain v (List.mem_cons_of_mem _ hv)⟩

theorem unmarked_text (hr : m.rule ∈ Rule.all) (h : m ∈ matchesIn rules cs prose) :
    ¬ suggestionMark <:+: (String.ofList m.text).toList := by
  rw [String.toList_ofList]
  intro hi
  exact comma_not_mem_text hr h (hi.subset (by decide))

/-- Each message of a check is about a match of a rule in force, and its reason is taken apart into
what the rule has. -/
theorem exists_rule_of_message {s : Settings} {profile : Profile} {document : String}
    {messages : List Message} (h : check s profile document = .ok messages) {message : Message}
    (hm : message ∈ messages) :
    ∃ r ∈ s.rules, ∃ actual, message.ruleId = r.id ∧ message.reason = r.reason actual ∧
      message.isError = r.isFatal ∧
      Reason.ofText message.reason = ⟨r.statement actual, r.suggestions⟩ := by
  obtain ⟨_, prose, _, rfl⟩ := of_check h
  obtain ⟨found, hf, hmsg⟩ := List.mem_filterMap.mp hm
  obtain ⟨hid, hreason, herror⟩ := Match.of_message hmsg
  have hr := (of_mem_matchesIn hf).1
  have hall := mem_all_of_rules hr
  refine ⟨found.rule, hr, String.ofList found.text, hid, hreason, herror, ?_⟩
  rw [hreason]
  exact ofText_reason found.rule (Rule.plain_suggestions hall) (unmarked_text hall hf)

theorem Keyed.find_of_mem {κ α : Type} [DecidableEq κ] {k : κ} {a : α} {es : List (κ × α)}
    (h : (k, a) ∈ es) (same : ∀ b, (k, b) ∈ es → b = a) : Keyed.find k es = some a := by
  induction es with
  | nil => cases h
  | cons e es ih =>
    obtain ⟨l, b⟩ := e
    by_cases hl : l = k
    · subst hl
      rw [Keyed.find, if_pos rfl, same b List.mem_cons_self]
    · have hmem : (k, a) ∈ es := by
        rcases List.mem_cons.mp h with he | hmem
        · cases he
          exact (hl rfl).elim
        · exact hmem
      rw [Keyed.find, if_neg hl]
      exact ih hmem fun c hc => same c (List.mem_cons_of_mem _ hc)

variable {filetype : Filetype} {settings : Settings} {ms : List Message}

theorem code_of_fixesFor {k : Nat} {message : Message} {e : String × List QuickFix}
    (h : fixesFor k message = some e) : e.1 = Diagnostic.codeAt k :=
  congrArg Prod.fst (eq_of_fixesFor h).1

theorem get?_fixes_iff (code : String) (fixes : List QuickFix) :
    (Report.ofMessages filetype settings ms).fixes.get? code = some fixes ↔
      ∃ k message, ms[k]? = some message ∧ fixesFor k message = some (code, fixes) := by
  constructor
  · intro h
    exact (mem_fixes_ofMessages filetype settings).mp (Keyed.mem_of_find h)
  · intro ⟨k, message, hm, he⟩
    apply Keyed.find_of_mem ((mem_fixes_ofMessages filetype settings).mpr ⟨k, message, hm, he⟩)
    intro b hb
    -- Codes count the messages, so that those of two messages differ.
    obtain ⟨j, other, ho, hj⟩ := (mem_fixes_ofMessages filetype settings).mp hb
    have hj' : code = Diagnostic.codeAt j := code_of_fixesFor hj
    have hk' : code = Diagnostic.codeAt k := code_of_fixesFor he
    have hjk := Diagnostic.codeAt_inj (hj'.symm.trans hk')
    subst hjk
    rw [hm, Option.some.injEq] at ho
    subst ho
    rw [he] at hj
    cases hj
    rfl

/-- At place `k` the report shows what the rule has: its statement, its severity, and its
suggestions as quick fixes under the code of the diagnostic. -/
structure Shows (report : Report) (k : Nat) (r : Rule) (actual : String) : Prop where
  diagnostic : ∃ d, report.diagnostics[k]? = some d ∧
    d.codeText = some ("kindlint-" ++ toString (k + 1)) ∧ d.message = r.statement actual ∧
    (d.severity = some Diagnostic.severityError ∨ d.severity = some Diagnostic.severityWarning) ∧
    (d.severity = some Diagnostic.severityError ↔ r.kind = .profanity .likely)
  keyed : (∃ fixes, report.fixes.get? ("kindlint-" ++ toString (k + 1)) = some fixes) ↔
    r.suggestions ≠ []
  fixes : ∀ fixes, report.fixes.get? ("kindlint-" ++ toString (k + 1)) = some fixes →
    fixes.map QuickFix.value = r.suggestions ∧
    fixes.map QuickFix.id = (List.range r.suggestions.length).map fun j => "fix-" ++ toString j

theorem ofSuggestions_values (suggestions : List String) :
    (QuickFix.ofSuggestions suggestions).map QuickFix.value = suggestions := by
  apply List.ext_getElem
  · simp [QuickFix.ofSuggestions]
  · intro j hl hr
    simp [QuickFix.ofSuggestions, QuickFix.suggest]

theorem ofSuggestions_ids (suggestions : List String) :
    (QuickFix.ofSuggestions suggestions).map QuickFix.id =
      (List.range suggestions.length).map fun j => "fix-" ++ toString j := by
  apply List.ext_getElem
  · simp [QuickFix.ofSuggestions]
  · intro j hl hr
    simp [QuickFix.ofSuggestions, QuickFix.suggest]

theorem severity_ofMessage (k : Nat) {message : Message} {r : Rule}
    (h : message.isError = r.isFatal) :
    ((Diagnostic.ofMessage k message).severity = some Diagnostic.severityError ∨
      (Diagnostic.ofMessage k message).severity = some Diagnostic.severityWarning) ∧
    ((Diagnostic.ofMessage k message).severity = some Diagnostic.severityError ↔
      r.kind = .profanity .likely) := by
  have hne : Diagnostic.severityWarning ≠ Diagnostic.severityError := by decide
  by_cases hk : r.kind = .profanity .likely
  · have hf : message.isError = true := by simp [h, Rule.isFatal, hk]
    simp [Diagnostic.ofMessage, hf, hk]
  · have hf : message.isError = false := by simp [h, Rule.isFatal, hk]
    simp [Diagnostic.ofMessage, hf, hk, hne]

theorem shows_ofMessages {k : Nat} {message : Message} {r : Rule} {actual : String}
    (hm : ms[k]? = some message) (herror : message.isError = r.isFatal)
    (taken : Reason.ofText message.reason = ⟨r.statement actual, r.suggestions⟩) :
    Shows (.ofMessages filetype settings ms) k r actual := by
  have fixes : ∀ fixes, (Report.ofMessages filetype settings ms).fixes.get?
      ("kindlint-" ++ toString (k + 1)) = some fixes ↔
      r.suggestions ≠ [] ∧ fixes = QuickFix.ofSuggestions r.suggestions := by
    intro fixes
    have hfor : fixesFor k message =
        if r.suggestions = [] then none
        else some (Diagnostic.codeAt k, QuickFix.ofSuggestions r.suggestions) := by
      unfold fixesFor
      rw [taken]
      cases r.suggestions <;> rfl
    rw [get?_fixes_iff]
    constructor
    · intro h
      obtain ⟨j, other, ho, hj⟩ := h
      have hjk : k = j := Diagnostic.codeAt_inj (code_of_fixesFor hj)
      subst hjk
      rw [hm, Option.some.injEq] at ho
      subst ho
      rw [hfor] at hj
      split at hj
      · cases hj
      · rename_i hne
        cases hj
        exact ⟨hne, rfl⟩
    · intro h
      obtain ⟨hne, he⟩ := h
      refine ⟨k, message, hm, ?_⟩
      rw [hfor, if_neg hne, he]
      rfl
  constructor
  · obtain ⟨severity, error⟩ := severity_ofMessage k herror
    refine ⟨.ofMessage k message, ?_, rfl, ?_, severity, error⟩
    · simp [Report.ofMessages, List.getElem?_mapIdx, hm]
    · simp [Diagnostic.ofMessage, taken]
  · constructor
    · intro h
      obtain ⟨_, h⟩ := h
      exact ((fixes _).mp h).1
    · intro hne
      exact ⟨_, (fixes _).mpr ⟨hne, rfl⟩⟩
  · intro _ h
    rw [((fixes _).mp h).2]
    exact ⟨ofSuggestions_values _, ofSuggestions_ids _⟩

theorem of_lint {url : Url} {d : Document} {s : Settings} {report : Report}
    (h : lint url (some d) s = .ok report) :
    ∃ messages, check s d.filetype.profile d.text = .ok messages ∧
      report = .ofMessages d.filetype s messages := by
  unfold lint at h
  cases hc : check s d.filetype.profile d.text with
  | error e => simp [hc] at h
  | ok messages =>
    simp only [hc, Except.ok.injEq] at h
    exact ⟨messages, rfl, h.symm⟩

/-- What is printed into a reason comes out of it again: the statement and the suggestions of the
rule, which are those of its quick fixes. This needs that neither the suggestions nor the matched
text look like the marks between them. No text that matches does, so that a report shows at the
place of each message what the rule has that fired, and has no quick fixes but these. -/
theorem suggestions_kept :
    (∀ (r : Rule) (actual : String),
      (∀ s ∈ r.suggestions, '`' ∉ s.toList ∧ ¬ ", use".toList <:+: s.toList) →
      ¬ ", use".toList <:+: actual.toList →
      Reason.ofText (r.reason actual) = ⟨r.statement actual, r.suggestions⟩ ∧
      ¬ ", use".toList <:+: (r.statement actual).toList ∧
      ∃ behind, r.reason actual = r.statement actual ++ behind ∧
        (behind = "" ∨ ", use".toList <+: behind.toList)) ∧
    (∀ (url : Url) (d : Document) (s : Settings) (report : Report),
      lint url (some d) s = .ok report →
      ∃ messages, check s d.filetype.profile d.text = .ok messages ∧
        report.diagnostics.length = messages.length ∧
        (∀ k message, messages[k]? = some message →
          ∃ r ∈ s.rules, ∃ actual, message.ruleId = r.id ∧ message.reason = r.reason actual ∧
            Shows report k r actual) ∧
        ∀ code fixes, report.fixes.get? code = some fixes →
          ∃ k < messages.length, code = "kindlint-" ++ toString (k + 1)) := by
  refine ⟨fun r _ plain unmarked =>
    ⟨ofText_reason r plain unmarked, exists_behind_statement r unmarked⟩, ?_⟩
  intro url d s report h
  obtain ⟨messages, hc, rfl⟩ := of_lint h
  refine ⟨messages, hc, by simp [Report.ofMessages], ?_, ?_⟩
  · intro k message hm
    obtain ⟨r, hr, actual, hid, hreason, herror, taken⟩ :=
      exists_rule_of_message hc (List.mem_of_getElem? hm)
    exact ⟨r, hr, actual, hid, hreason, shows_ofMessages hm herror taken⟩
  · intro code fixes hf
    obtain ⟨k, message, hm, he⟩ := (get?_fixes_iff code fixes).mp hf
    obtain ⟨hk, _⟩ := List.getElem?_eq_some_iff.mp hm
    exact ⟨k, hk, code_of_fixesFor he⟩

/-- A text of one word, for which there are three suggestions. -/
theorem suggestions_kept_guys :
    Reason.ofText (Rule.reason ⟨"guys", ["guys"], .insensitive ["people", "folks"]⟩ "`Guys`") =
      ⟨"``Guys`` may be insensitive", ["people", "folks"]⟩ ∧
    ∃ report r actual, lint { scheme := "file", path := .segments ["a.txt"] }
        (some ⟨"Guys", 1, .plainText⟩) {} = .ok report ∧
      Shows report 0 r actual ∧ r.suggestions = ["people", "folks", "everyone"] := by
  obtain ⟨taken, shown⟩ := suggestions_kept
  refine ⟨(taken ⟨"guys", ["guys"], .insensitive ["people", "folks"]⟩ "`Guys`" (by decide)
    (by decide)).1, ?_⟩
  have checked : (check {} .text "Guys").toOption.map (·.map Message.ruleId) = some ["guys"] := by
    decide +kernel
  have suggestions : ∀ r ∈ Rule.all, r.id = "guys" →
      r.suggestions = ["people", "folks", "everyone"] := by
    decide +kernel
  cases hc : check {} .text "Guys" with
  | error e =>
    rw [hc] at checked
    cases checked
  | ok messages =>
    rw [hc] at checked
    have hids : messages.map Message.ruleId = ["guys"] := Option.some.inj checked
    obtain ⟨message, rfl, hid⟩ := List.map_eq_singleton_iff.mp hids
    have linted : lint { scheme := "file", path := .segments ["a.txt"] }
        (some ⟨"Guys", 1, .plainText⟩) {} = .ok (.ofMessages .plainText {} [message]) := by
      simp only [lint, Filetype.profile, hc]
    obtain ⟨messages, hc', _, places, _⟩ := shown _ _ _ _ linted
    have hm : messages = [message] := Except.ok.inj (hc'.symm.trans hc)
    subst hm
    obtain ⟨r, hr, actual, hr', _, shows⟩ := places 0 message rfl
    have he := suggestions r (mem_all_of_rules hr) (hr'.symm.trans hid)
    exact ⟨_, r, actual, linted, shows, he⟩

end Considerate
