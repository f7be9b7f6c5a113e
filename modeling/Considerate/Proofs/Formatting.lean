import Considerate.Proofs.BehindMarks
import Considerate.Proofs.Edits
import Considerate.Proofs.MendedProse

namespace Considerate

open Text Markup

theorem forall₂_trans {α β γ : Type} {R : α → β → Prop} {S : β → γ → Prop} {T : α → γ → Prop}
    (trans : ∀ a b c, R a b → S b c → T a c) {as : List α} {bs : List β} {cs : List γ}
    (h : List.Forall₂ R as bs) (h' : List.Forall₂ S bs cs) : List.Forall₂ T as cs := by
  induction h generalizing cs with
  | nil =>
    cases h'
    exact .nil
  | cons r _ ih =>
    cases h' with
    | cons s later => exact .cons (trans _ _ _ r s) (ih later)

theorem pairwise_of_forall₂ {α β : Type} {R : α → β → Prop} {S : β → β → Prop} {T : α → α → Prop}
    (step : ∀ a a' b b', R a b → R a' b' → S b b' → T a a') {as : List α} {bs : List β}
    (h : List.Forall₂ R as bs) (hp : bs.Pairwise S) : as.Pairwise T := by
  induction h with
  | nil => exact .nil
  | cons r later ih =>
    obtain ⟨first, rest⟩ := List.pairwise_cons.mp hp
    refine List.pairwise_cons.mpr ⟨fun a ha => ?_, ih rest⟩
    obtain ⟨b, hb, r'⟩ := exists_left_of_mem later.flip ha
    exact step _ _ _ _ r r' (first b hb)

/-- The range starts at one place and stops at the other, both counted from 0. -/
structure Range.Between (r : Range) (p q : Place) : Prop where
  startLine : p.line = r.start.line.toNat + 1
  startColumn : p.column = r.start.character.toNat + 1
  stopLine : q.line = r.stop.line.toNat + 1
  stopColumn : q.column = r.stop.character.toNat + 1

/-- The edit does what the patch does: it has the range between the places at the ends of the part,
and the text that takes its place. -/
structure Edit.Makes (cs : List Char) (e : Edit) (patch : Patch) : Prop where
  newText : e.newText = String.ofList patch.newText
  proper : patch.span.start < patch.span.stop
  between : ∃ p q, placeAt cs patch.span.start = some p ∧ placeAt cs patch.span.stop = some q ∧
    e.range.Between p q

/-- The message is the one on a match, which is found in the document and has its text there. -/
structure Match.Causes (s : Settings) (profile : Profile) (cs : List Char) (m : Match)
    (message : Message) : Prop where
  found : ∃ prose, profile.prose cs = .ok prose ∧ m ∈ matchesIn s.rules cs prose
  reports : Reports cs m message
  text : (Span.mk m.start m.stop).slice cs = m.text

/-- The patch puts the only suggestion of the message in the place of the text that matched. -/
structure Message.IsPatchedBy (s : Settings) (profile : Profile) (cs : List Char)
    (message : Message) (patch : Patch) : Prop where
  part : ∃ m : Match, m.Causes s profile cs message ∧ patch.span = ⟨m.start, m.stop⟩
  suggestion : message.suggestions = [String.ofList patch.newText]

/-- The edits of the report are one for each diagnostic with one quick fix, the last one first, and
do what the patches do. These are apart, the last one first, and are one for each message with one
suggestion. -/
structure Report.Formats (s : Settings) (profile : Profile) (cs : List Char)
    (messages : List Message) (report : Report) (patches : List Patch) : Prop where
  resolves : List.Forall₂ report.Resolves
    (report.diagnostics.filter fun d => (report.fixesOf d).length = 1) report.formatEdits.reverse
  descending : report.formatEdits.Pairwise fun a b => b.range.start.Before a.range.start
  apart : patches.Pairwise fun a b => b.span.stop ≤ a.span.start
  makes : List.Forall₂ (Edit.Makes cs) report.formatEdits patches
  patched : List.Forall₂ (Message.IsPatchedBy s profile cs)
    (messages.filter (·.suggestions.length = 1)) patches.reverse

/-- The messages on two texts are about the same rule and the same words. -/
def SameFinding (s : Settings) (profile : Profile) (cs cs' : List Char)
    (message message' : Message) : Prop :=
  ∃ m m' : Match, m.Causes s profile cs message ∧ m'.Causes s profile cs' message' ∧
    message'.ruleId = message.ruleId ∧ m'.text = m.text

/-- The text has, in their order, the messages on the other one that had not exactly one suggestion,
and there is nothing left to format in it. -/
structure Settled (s : Settings) (filetype : Filetype) (cs : List Char) (messages : List Message)
    (text : String) : Prop where
  kept : ∃ messages', check s filetype.profile text = .ok messages' ∧
    List.Forall₂ (SameFinding s filetype.profile cs text.toList)
      (messages.filter (·.suggestions.length ≠ 1)) messages'
  still : ∀ (url : Url) (version : Int32), ∃ report,
    lint url (some ⟨text, version, filetype⟩) s = .ok report ∧ report.formatEdits = []

variable {s : Settings} {profile : Profile} {cs cs' : List Char} {prose prose' : List Span}
  {found found' : List Match} {messages messages' : List Message} {m : Match} {message : Message}

theorem exists_isMatch (within : ∀ s ∈ prose, s.Within cs) (h : m ∈ matchesIn s.rules cs prose) :
    ∃ site : Site, site.IsMatch s cs prose ∧
      m = site.matched (stretchWords cs prose site.stretch) := by
  obtain ⟨site, rfl, enabled, matched⟩ := exists_site h
  exact ⟨site, (isMatch_iff within).mpr ⟨enabled, matched⟩, rfl⟩

theorem exists_caused (read : profile.prose cs = .ok prose) (within : ∀ s ∈ prose, s.Within cs)
    (h : m ∈ matchesIn s.rules cs prose) : ∃ message, m.message cs = some message ∧
      m.Causes s profile cs message ∧ message.suggestions = m.rule.suggestions := by
  obtain ⟨site, matched, rfl⟩ := exists_isMatch within h
  obtain ⟨before, behind, parts, start, stop⟩ := exists_ends within matched
  obtain ⟨message, hm, reports⟩ := exists_message within matched
  generalize site.matched (stretchWords cs prose site.stretch) = m at *
  refine ⟨message, hm, ⟨⟨prose, read, h⟩, reports, ?_⟩, ?_⟩
  · rw [start, stop, parts]
    exact Span.slice_append ..
  · have hall := mem_all_of_rules (of_mem_matchesIn h).1
    rw [Message.suggestions, (Match.of_message hm).2.1,
      ofText_reason _ (Rule.plain_suggestions hall) (unmarked_text hall h)]

theorem isLatin_text {v : String} (h : m ∈ matchesIn s.rules cs prose)
    (hv : m.rule.only? = some v) : IsLatin m.text := by
  obtain ⟨hr, spelled, _⟩ := of_mem_matchesIn h
  obtain ⟨p, hp, long, lower, _⟩ := Rule.exists_word_of_only (mem_all_of_rules hr) hv
  rw [hp] at spelled
  obtain ⟨w, _, spells, last, hw⟩ := List.forall₂_cons_left_iff.mp spelled
  cases last
  have text : m.text = w.text := by
    rw [Match.text, hw]
    exact List.append_nil _
  rw [text]
  exact isLatin_of_fold (beq_iff_eq.mp spells) long lower

/-- Patches begin at letters, which they take out, so that they start at places that follow each
other. -/
theorem places_ascend (within : ∀ s ∈ prose, s.Within cs)
    (woven : Woven 0 cs cs' ((matchesIn s.rules cs prose).filterMap Match.patch?)) :
    ((matchesIn s.rules cs prose).filterMap Match.patch?).Pairwise fun a b =>
      ∀ p q, placeAt cs a.span.start = some p → placeAt cs b.span.start = some q → p.Lt q := by
  refine woven.ordered.2.imp_of_mem fun {a b} ha _ later p q hp hq => ?_
  obtain ⟨m, hm, patch⟩ := List.mem_filterMap.mp ha
  obtain ⟨v, hv, rfl⟩ := Option.map_eq_some_iff.mp patch
  obtain ⟨letters, length⟩ := isLatin_text hm hv
  obtain ⟨site, matched, rfl⟩ := exists_isMatch within hm
  obtain ⟨before, behind, parts, start, stop⟩ := exists_ends within matched
  generalize site.matched (stretchWords cs prose site.stretch) = m at *
  cases ht : m.text with
  | nil =>
    rw [ht] at length
    cases length
  | cons c text =>
    rw [ht, List.cons_append] at parts
    rw [parts] at hp hq
    simp only [start] at hp
    refine Place.lt_of_letter (letters c (by simp [ht])) hp hq ?_
    simp only [stop, ht, byteSize] at later
    omega

theorem makes_of_only {v : String} (small : byteSize cs + 1 < UInt32.size)
    (h : m ∈ matchesIn s.rules cs prose) (hm : m.message cs = some message) :
    Edit.Makes cs ⟨(Diagnostic.ofMessage 0 message).range, v⟩ ⟨⟨m.start, m.stop⟩, v.toList⟩ := by
  obtain ⟨p, q, hp, hq, ends, spans⟩ := exists_places (Nat.lt_of_succ_lt small) h hm
  obtain ⟨startLine, startColumn, stopLine, stopColumn, _⟩ := range_ofMessage ends spans 0
  have stopColumn := stopColumn (Place.fits_of_short small hq).2
  have lines := ends.lines
  obtain ⟨_, line, column, column', _⟩ := ends
  have length := (text_of_mem h).1
  obtain ⟨c, hc, visible⟩ := exists_visible h
  have pos := count_lt_byteSize hc visible
  refine ⟨by simp, show m.start < m.stop by omega, p, q, hp, hq, ?_⟩
  constructor <;> simp only <;> omega

theorem ascending_of_makes {es : List Edit} {patches : List Patch}
    (makes : List.Forall₂ (Edit.Makes cs) es patches)
    (places : patches.Pairwise fun a b =>
      ∀ p q, placeAt cs a.span.start = some p → placeAt cs b.span.start = some q → p.Lt q) :
    es.Pairwise fun a b => a.range.start.Before b.range.start := by
  refine pairwise_of_forall₂ (fun e e' patch patch' h h' lt => ?_) makes places
  obtain ⟨p, _, hp, _, between⟩ := h.between
  obtain ⟨q, _, hq, _, between'⟩ := h'.between
  have := lt p q hp hq
  rw [Place.Lt, between.startLine, between.startColumn, between'.startLine,
    between'.startColumn] at this
  rw [Position.before_iff]
  omega

structure Match.Yields (s : Settings) (profile : Profile) (cs : List Char) (prose : List Span)
    (m : Match) (message : Message) : Prop extends m.Causes s profile cs message where
  mem : m ∈ matchesIn s.rules cs prose
  printed : m.message cs = some message
  suggestions : message.suggestions = m.rule.suggestions

theorem exists_yields {document : String} (valid : s.conflicting = false)
    (read : profile.prose document.toList = .ok prose)
    (within : ∀ s ∈ prose, s.Within document.toList) :
    ∃ messages, check s profile document = .ok messages ∧
      List.Forall₂ (Match.Yields s profile document.toList prose)
        (matchesIn s.rules document.toList prose) messages := by
  refine ⟨_, check_eq valid read, forall₂_filterMap fun m hm => ?_⟩
  obtain ⟨message, h, causes, suggestions⟩ := exists_caused read within hm
  exact ⟨message, h, causes, hm, h, suggestions⟩

theorem forall₂_makes (small : byteSize cs + 1 < UInt32.size) (filetype : Filetype)
    (yields : List.Forall₂ (Match.Yields s profile cs prose) found messages) :
    let report := Report.ofMessages filetype s messages
    List.Forall₂ (Edit.Makes cs) (report.diagnostics.filterMap (Report.editFor report.fixes))
      (found.filterMap Match.patch?) := by
  intro report
  have pairs : List.Forall₂ (fun d m => ∃ message, report.IsFor d message ∧
      m.Yields s profile cs prose message) report.diagnostics found :=
    forall₂_trans (fun _ message _ isFor yields => ⟨message, isFor, yields⟩)
      (Report.forall₂_isFor filetype s messages) yields.flip
  refine List.rel_filterMap ?_ pairs
  rintro d m ⟨message, isFor, yields⟩
  have fixes := isFor.fixes.trans yields.suggestions
  cases hv : m.rule.only? with
  | none =>
    have none : Report.editFor report.fixes d = none := by
      rw [← Option.not_isSome_iff_eq_none, Report.isSome_editFor_iff, ← List.length_map, fixes,
        Rule.length_suggestions_iff, not_not]
      exact hv
    rw [none, Match.patch?, hv]
    exact .none
  | some v =>
    have some : Report.editFor report.fixes d = some ⟨d.range, v⟩ :=
      Report.editFor_eq_some_iff.mpr ⟨rfl, fixes.trans (Rule.only?_eq_some_iff.mp hv)⟩
    rw [some, Match.patch?, hv, isFor.range]
    exact .some (makes_of_only small yields.mem yields.printed)

theorem forall₂_isPatchedBy
    (yields : List.Forall₂ (Match.Yields s profile cs prose) found messages) :
    List.Forall₂ (Message.IsPatchedBy s profile cs) (messages.filter (·.suggestions.length = 1))
      (found.filterMap Match.patch?) := by
  rw [← List.filterMap_eq_filter]
  refine List.rel_filterMap ?_ yields.flip
  intro message m yields
  have only := yields.suggestions ▸ Rule.length_suggestions_iff (r := m.rule)
  cases hv : m.rule.only? with
  | none =>
    rw [Match.patch?, hv, Option.guard, if_neg (by simp [only, hv])]
    exact .none
  | some v =>
    rw [Match.patch?, hv, Option.guard, if_pos (by simp [only, hv])]
    refine .some ⟨⟨m, yields.toCauses, rfl⟩, ?_⟩
    rw [String.ofList_toList, yields.suggestions]
    exact Rule.only?_eq_some_iff.mp hv

theorem forall₂_sameFinding
    (yields : List.Forall₂ (Match.Yields s profile cs prose) found messages)
    (yields' : List.Forall₂ (Match.Yields s profile cs' prose') found' messages')
    (said : found'.map Match.said = (found.filter (·.rule.only?.isNone)).map Match.said) :
    List.Forall₂ (fun message message' => SameFinding s profile cs cs' message message' ∧
        message'.suggestions = message.suggestions)
      (messages.filter (·.suggestions.length ≠ 1)) messages' := by
  have left : List.Forall₂ (Match.Yields s profile cs prose)
      (found.filter (·.rule.only?.isNone)) (messages.filter (·.suggestions.length ≠ 1)) := by
    refine List.rel_filter ?_ yields
    intro m message yields
    simp only [decide_eq_true_eq, yields.suggestions, Ne, Rule.length_suggestions_iff, not_not,
      Option.isNone_iff_eq_none]
  have same : List.Forall₂ (fun m m' : Match => m.said = m'.said)
      (found.filter (·.rule.only?.isNone)) found' := by
    have h : List.Forall₂ (fun a b => a = b) ((found.filter (·.rule.only?.isNone)).map Match.said)
        (found'.map Match.said) := by
      rw [said]
      exact List.forall₂_same.mpr fun _ _ => rfl
    rwa [List.forall₂_map_left_iff, List.forall₂_map_right_iff] at h
  have right : List.Forall₂ (fun m message' => ∃ m' : Match, m.said = m'.said ∧
      m'.Yields s profile cs' prose' message') (found.filter (·.rule.only?.isNone)) messages' :=
    forall₂_trans (fun _ m' _ h h' => ⟨m', h, h'⟩) same yields'
  refine forall₂_trans ?_ left.flip right
  rintro message m message' yields ⟨m', he, yields'⟩
  obtain ⟨rule, text⟩ := Prod.ext_iff.mp he
  refine ⟨⟨m, m', yields.toCauses, yields'.toCauses, ?_, text.symm⟩, ?_⟩
  · rw [(Match.of_message yields.printed).1, (Match.of_message yields'.printed).1]
    exact congrArg Rule.id rule.symm
  · rw [yields.suggestions, yields'.suggestions]
    exact congrArg Rule.suggestions rule.symm

/-- The edits of a report do what the patches for its matches do, the last one first. -/
theorem formats_ofMessages (filetype : Filetype) (small : byteSize cs + 1 < UInt32.size)
    (within : ∀ s ∈ prose, s.Within cs)
    (woven : Woven 0 cs cs' ((matchesIn s.rules cs prose).filterMap Match.patch?))
    (yields : List.Forall₂ (Match.Yields s profile cs prose) (matchesIn s.rules cs prose)
      messages) :
    (Report.ofMessages filetype s messages).Formats s profile cs messages
      ((matchesIn s.rules cs prose).filterMap Match.patch?).reverse := by
  have makes := forall₂_makes small filetype yields
  have ascending := ascending_of_makes makes (places_ascend within woven)
  have turned := Report.mergeSort_notBefore ascending
  rw [← Report.edits, ← Report.formatEdits] at turned
  refine ⟨?_, ?_, ?_, ?_, ?_⟩
  · rw [turned, List.reverse_reverse]
    exact Report.forall₂_resolves _
  · rw [turned]
    exact List.pairwise_reverse.mpr ascending
  · exact List.pairwise_reverse.mpr woven.ordered.2
  · rw [turned]
    exact List.rel_reverse makes
  · rw [List.reverse_reverse]
    exact forall₂_isPatchedBy yields

theorem formatEdits_eq_nil (filetype : Filetype) (s : Settings)
    (h : ∀ m ∈ messages, m.suggestions.length ≠ 1) :
    (Report.ofMessages filetype s messages).formatEdits = [] := by
  have none : (Report.ofMessages filetype s messages).diagnostics.filterMap
      (Report.editFor (Report.ofMessages filetype s messages).fixes) = [] := by
    refine List.filterMap_eq_nil_iff.mpr fun d hd => ?_
    obtain ⟨m, hm, isFor⟩ := exists_left_of_mem (Report.forall₂_isFor filetype s messages).flip hd
    rw [← Option.not_isSome_iff_eq_none, Report.isSome_editFor_iff,
      ← List.length_map QuickFix.value, isFor.fixes]
    exact h m hm
  rw [Report.formatEdits, Report.edits, none, List.mergeSort_nil]

theorem settled_of_mended {filetype : Filetype} {text : String} (valid : s.conflicting = false)
    (read : filetype.profile.prose text.toList = .ok prose')
    (within : ∀ s ∈ prose', s.Within text.toList)
    (yields : List.Forall₂ (Match.Yields s filetype.profile cs prose) found messages)
    (said : (matchesIn s.rules text.toList prose').map Match.said =
      (found.filter (·.rule.only?.isNone)).map Match.said) :
    Settled s filetype cs messages text := by
  obtain ⟨messages', checked, yields'⟩ := exists_yields valid read within
  have same := forall₂_sameFinding yields yields' said
  refine ⟨⟨messages', checked, same.imp fun _ _ h => h.1⟩, fun url version => ?_⟩
  refine ⟨.ofMessages filetype s messages', by rw [lint, checked], formatEdits_eq_nil _ _ ?_⟩
  intro message' h
  obtain ⟨message, hm, _, suggestions⟩ := exists_left_of_mem same h
  rw [suggestions]
  exact of_decide_eq_true (List.mem_filter.mp hm).2

/-- Formatting a plain or HTML document of less than 2³² - 1 bytes replaces the words for which one
other word is suggested, and no other. In the new text there are, in their order, the messages that
had not exactly one suggestion, and there is nothing left to format. -/
theorem formatting_reaches_fixed_point (url : Url) (d : Document) (settings : Settings)
    (plain : d.filetype.profile = .text ∨ d.filetype.profile = .html)
    (valid : settings.conflicting = false) (short : byteSize d.text.toList + 1 < UInt32.size) :
    ∃ messages report patches,
      check settings d.filetype.profile d.text = .ok messages ∧
      lint url (some d) settings = .ok report ∧
      report.Formats settings d.filetype.profile d.text.toList messages patches ∧
      Settled settings d.filetype d.text.toList messages
        (String.ofList (spliceAll patches d.text.toList)) := by
  have named : d.filetype.profile ≠ .markdown ∧ d.filetype.profile ≠ .mdx := by
    rcases plain with h | h <;> rw [h] <;> decide
  obtain ⟨prose, read⟩ : ∃ prose, d.filetype.profile.prose d.text.toList = .ok prose := by
    rcases plain with h | h <;> rw [h] <;> exact ⟨_, rfl⟩
  obtain ⟨cs', prose', read', woven, said⟩ := exists_mended (·.isEnabled settings) read plain
  rw [← Settings.rules] at woven said
  have within := Profile.within_prose read named
  have within' := Profile.within_prose read' named
  obtain ⟨messages, checked, yields⟩ := exists_yields valid read within
  refine ⟨messages, .ofMessages d.filetype settings messages, _, checked, by rw [lint, checked],
    formats_ofMessages d.filetype short within woven yields, ?_⟩
  rw [woven.spliceAll_eq]
  rw [← String.toList_ofList (l := cs')] at read' said within'
  exact settled_of_mended valid read' within' yields said

/-- A text in which two of three words that are found are replaced. -/
theorem formatting_reaches_fixed_point_hers :
    (Filetype.profile .plainText = .text ∨ Filetype.profile .plainText = .html) ∧
    Settings.conflicting { noBinary := true } = false ∧
    byteSize "Hers, he grandfathered".toList + 1 < UInt32.size ∧
    ∃ messages report patches,
      check { noBinary := true } (Filetype.profile .plainText) "Hers, he grandfathered" =
        .ok messages ∧
      lint { scheme := "file", path := .segments ["a.txt"] }
        (some ⟨"Hers, he grandfathered", 1, .plainText⟩) { noBinary := true } = .ok report ∧
      report.Formats { noBinary := true } .text "Hers, he grandfathered".toList messages patches ∧
      messages.map Message.suggestions = [["theirs"], ["they", "it"], ["legacy"]] ∧
      Settled { noBinary := true } .plainText "Hers, he grandfathered".toList messages
        (String.ofList (spliceAll patches "Hers, he grandfathered".toList)) := by
  refine ⟨Or.inl rfl, rfl, by decide, ?_⟩
  obtain ⟨messages, report, patches, checked, linted, formats, settled⟩ :=
    formatting_reaches_fixed_point { scheme := "file", path := .segments ["a.txt"] }
      ⟨"Hers, he grandfathered", 1, .plainText⟩ { noBinary := true } (Or.inl rfl) rfl (by decide)
  refine ⟨messages, report, patches, checked, linted, formats, ?_, settled⟩
  have suggestions : (check { noBinary := true } .text "Hers, he grandfathered").toOption.map
      (·.map Message.suggestions) = some [["theirs"], ["they", "it"], ["legacy"]] := by
    decide +kernel
  simp only [Filetype.profile] at checked
  rw [checked] at suggestions
  exact Option.some.inj suggestions

/-- The edit for a diagnostic that is the only one has its range and does what some patch does. -/
theorem Report.Formats.exists_makes {filetype : Filetype} {patches : List Patch}
    (formats : (ofMessages filetype s [message]).Formats s profile cs [message] patches)
    (one : message.suggestions.length = 1) :
    ∃ e patch, e.range = (Diagnostic.ofMessage 0 message).range ∧ Edit.Makes cs e patch := by
  obtain ⟨d, rest, isFor, later, diagnostics⟩ := List.forall₂_cons_right_iff.mp
    (forall₂_isFor filetype s [message])
  cases later
  rw [← isFor.fixes, List.length_map] at one
  have resolves := formats.resolves
  rw [diagnostics, List.filter_cons_of_pos (by simpa using one), List.filter_nil] at resolves
  obtain ⟨e, rest, resolves, later, turned⟩ := List.forall₂_cons_left_iff.mp resolves
  cases later
  have makes := formats.makes
  rw [List.reverse_eq_iff.mp turned] at makes
  obtain ⟨patch, rest, makes, -, -⟩ := List.forall₂_cons_left_iff.mp makes
  exact ⟨e, patch, resolves.range.trans isFor.range, makes⟩

/-- A word at the end of the longest line that a document can have gets an edit that takes nothing
out, as there is no number for the column behind it. -/
theorem last_word_not_formatted :
    let text := String.ofList (behindMarks 4294967282 "grandfathered".toList)
    byteSize text.toList < UInt32.size ∧ Settings.conflicting {} = false ∧
    ¬ ∃ messages report patches,
      check {} (Filetype.profile .plainText) text = .ok messages ∧
      lint { scheme := "file", path := .segments ["a.txt"] } (some ⟨text, 1, .plainText⟩) {} =
        .ok report ∧
      report.Formats {} .text text.toList messages patches ∧
      Settled {} .plainText text.toList messages (String.ofList (spliceAll patches text.toList)) := by
  intro text
  have latin : IsLatin "grandfathered".toList := ⟨List.all_eq_true.mp (by decide), by decide⟩
  have bytes : byteSize text.toList = UInt32.size - 1 := by
    rw [String.toList_ofList, byteSize_behindMarks latin]
    rfl
  have plain : IsPlain text.toList := by
    rw [String.toList_ofList]
    exact isPlain_behindMarks latin 4294967282
  refine ⟨by rw [bytes]; decide, rfl, ?_⟩
  rintro ⟨messages, report, patches, checked, linted, formats, -⟩
  obtain ⟨message, only, reason, spans⟩ := check_behindMarks (s := {}) rfl latin
    (r := ⟨"grandfathered", ["grandfathered"], .insensitive ["legacy"]⟩) (by decide +kernel) (by simp)
    4294967282
  obtain rfl : [message] = messages := Except.ok.inj (only.symm.trans checked)
  obtain ⟨messages, checked, rfl⟩ := of_lint linted
  obtain rfl : [message] = messages := Except.ok.inj (only.symm.trans checked)
  have suggestions : message.suggestions = ["legacy"] := by
    rw [Message.suggestions, reason]
    decide +kernel
  obtain ⟨e, patch, range, makes⟩ := formats.exists_makes (by rw [suggestions]; rfl)
  -- The edit starts and stops at one position, but the patch has to start and stop at two places.
  have ends : Ends ⟨1, 4294967283⟩ ⟨1, UInt32.size⟩ := by
    constructor <;> simp [Place.Le, UInt32.size]
  obtain ⟨-, startColumn, -, -, stopColumn⟩ := range_ofMessage ends spans 0
  obtain ⟨p, q, hp, hq, between⟩ := makes.between
  obtain rfl := plain.placeAt_eq hp
  obtain rfl := plain.placeAt_eq hq
  have proper := makes.proper
  have first := between.startColumn
  have last := between.stopColumn
  rw [range, startColumn] at first
  rw [range, stopColumn rfl] at last
  simp only at first last
  omega

end Considerate
