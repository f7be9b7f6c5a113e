import Considerate.Proofs.Resolution

namespace Considerate

namespace Text

/-- The columns that a text without line feeds takes up. -/
def columns : List Char → Nat
  | [] => 0
  | c :: cs => (if c = '\r' then 0 else units c) + columns cs

/-- The byte of the patched text where byte `n` of the text is, which is outside of the part. -/
def Patch.carry (p : Patch) (n : Nat) : Nat :=
  if n ≤ p.span.start then n else p.span.start + byteSize p.newText + (n - p.span.stop)

/-- The part of the patched text that another part of the text is. -/
def Patch.moved (p : Patch) (s : Span) : Span := ⟨p.carry s.start, p.carry s.stop⟩

variable {p q : Place} {cs old new between : List Char}

theorem foldl_step_of_feedless (h : '\n' ∉ cs) (p : Place) :
    cs.foldl Place.step p = ⟨p.line, p.column + columns cs⟩ := by
  induction cs generalizing p with
  | nil => rfl
  | cons c cs ih =>
    obtain ⟨feed, rest⟩ := not_or.mp (List.mem_cons.not.mp h)
    rw [List.foldl_cons, ih rest, Place.step, if_neg (Ne.symm feed), columns]
    by_cases back : c = '\r'
    · simp [back]
    · simp [back, Nat.add_assoc]

/-- Two places in one line become one behind the next line feed. -/
theorem foldl_step_eq_iff (line : p.line = q.line) :
    cs.foldl Place.step p = cs.foldl Place.step q ↔ '\n' ∈ cs ∨ p.column = q.column := by
  by_cases feedless : '\n' ∈ cs
  · obtain ⟨a, b, rfl⟩ := List.append_of_mem feedless
    have lines : (a.foldl Place.step p).line = (a.foldl Place.step q).line := by
      rw [line_foldl_step, line_foldl_step, line]
    simp [Place.step, lines]
  · rw [foldl_step_of_feedless feedless, foldl_step_of_feedless feedless, line, Place.mk.injEq]
    simp [feedless]

/-- Where words without a line end come for others, the text behind has its place still if there is
no line end in those either, and one before the text or the columns are as many. -/
theorem foldl_step_replaced_iff (old between : List Char) (feedless : '\n' ∉ new) (p : Place) :
    (old ++ between).foldl Place.step p = (new ++ between).foldl Place.step p ↔
      '\n' ∉ old ∧ ('\n' ∈ between ∨ columns old = columns new) := by
  have none : new.count '\n' = 0 := List.count_eq_zero.mpr feedless
  by_cases feed : '\n' ∈ old
  · -- The text behind has gone up by lines.
    have more : 0 < old.count '\n' := List.count_pos_iff.mpr feed
    refine iff_of_false (fun same => ?_) fun h => h.1 feed
    have line := congrArg Place.line same
    rw [line_foldl_step, line_foldl_step, List.count_append, List.count_append] at line
    omega
  · rw [List.foldl_append, List.foldl_append, foldl_step_eq_iff, foldl_step_of_feedless feed,
      foldl_step_of_feedless feedless]
    · simp [feed]
    · rw [foldl_step_of_feedless feed, foldl_step_of_feedless feedless]

/-- The patch is for the text `old`, which has `before` before it. -/
structure Patch.IsFor (patch : Patch) (before old : List Char) : Prop where
  start : patch.span.start = byteSize before
  stop : patch.span.stop = byteSize (before ++ old)

variable {patch : Patch} {before behind : List Char} {s : Span}

theorem Patch.IsFor.splice (h : patch.IsFor before old) :
    patch.splice (before ++ (old ++ behind)) = before ++ (patch.newText ++ behind) := by
  obtain ⟨⟨start, stop⟩, new⟩ := patch
  obtain ⟨rfl, rfl⟩ := h
  rw [byteSize_append]
  exact splice_append ..

theorem Patch.IsFor.slice (h : patch.IsFor before old) :
    patch.span.slice (before ++ (old ++ behind)) = old := by
  obtain ⟨⟨start, stop⟩, new⟩ := patch
  obtain ⟨rfl, rfl⟩ := h
  rw [byteSize_append]
  exact Span.slice_append ..

theorem Patch.moved_before (le : s.start ≤ s.stop) (h : s.stop ≤ patch.span.start) :
    patch.moved s = s := by
  rw [moved, carry, carry, if_pos (le.trans h), if_pos h]

theorem Patch.moved_behind (le : s.start ≤ s.stop) (h : patch.span.start < patch.span.stop)
    (h' : patch.span.stop ≤ s.start) :
    patch.moved s = ⟨patch.span.start + byteSize patch.newText + (s.start - patch.span.stop),
      patch.span.start + byteSize patch.newText + (s.stop - patch.span.stop)⟩ := by
  rw [moved, carry, carry, if_neg (by omega), if_neg (by omega)]

end Text

open Text Markup

def Range.IsOf (r : Range) (cs : List Char) (s : Span) : Prop :=
  ∃ p q, placeAt cs s.start = some p ∧ placeAt cs s.stop = some q ∧ r.Between p q

variable {r : Range} {p q p' q' : Place} {before old between behind : List Char}

theorem Range.Between.eq_start (h : r.Between p q) (h' : r.Between p' q') : p = p' := by
  cases p
  cases p'
  have line := h.startLine.trans h'.startLine.symm
  have column := h.startColumn.trans h'.startColumn.symm
  simp only at line column
  rw [line, column]

theorem Range.isOf_iff (r : Range) (before words behind : List Char) :
    r.IsOf (before ++ (words ++ behind)) ⟨byteSize before, byteSize (before ++ words)⟩ ↔
      r.Between (before.foldl Place.step ⟨1, 1⟩) ((before ++ words).foldl Place.step ⟨1, 1⟩) := by
  have start : placeAt (before ++ (words ++ behind)) (byteSize before) =
      some (before.foldl Place.step ⟨1, 1⟩) := Place.advance_append ..
  have stop : placeAt (before ++ (words ++ behind)) (byteSize (before ++ words)) =
      some ((before ++ words).foldl Place.step ⟨1, 1⟩) := by
    rw [← List.append_assoc]
    exact Place.advance_append ..
  constructor
  · rintro ⟨p, q, hp, hq, h⟩
    cases start.symm.trans hp
    cases stop.symm.trans hq
    exact h
  · exact fun h => ⟨_, _, start, stop, h⟩

/-- Behind a replacement the diagnostic is still about the words of its match, which its range is that
of if the patch is behind them, or else takes up as much of the lines up to them as what it
replaces. -/
structure Diagnostic.Outlives (cs : List Char) (patch : Patch) (x : Diagnostic) (m : Match) :
    Prop where
  words : (patch.moved ⟨m.start, m.stop⟩).slice (patch.splice cs) = m.text
  range : x.range.IsOf (patch.splice cs) (patch.moved ⟨m.start, m.stop⟩) ↔
    m.stop ≤ patch.span.start ∨
      '\n' ∉ patch.span.slice cs ∧
        ('\n' ∈ (Span.mk patch.span.stop m.start).slice cs ∨
          columns (patch.span.slice cs) = columns patch.newText)

variable {cs : List Char} {patch : Patch} {x : Diagnostic} {m : Match}

theorem outlives_before (parts : cs = before ++ (m.text ++ (between ++ (old ++ behind))))
    (start : m.start = byteSize before) (stop : m.stop = byteSize (before ++ m.text))
    (stands : x.range.IsOf cs ⟨m.start, m.stop⟩)
    (isFor : patch.IsFor (before ++ (m.text ++ between)) old) : x.Outlives cs patch m := by
  have spliced : patch.splice cs = before ++ (m.text ++ (between ++ (patch.newText ++ behind))) := by
    have h : patch.splice (before ++ (m.text ++ between) ++ (old ++ behind)) =
        before ++ (m.text ++ between) ++ (patch.newText ++ behind) := isFor.splice
    simpa [parts] using h
  have le : m.start ≤ m.stop := by
    rw [start, stop, byteSize_append]
    exact Nat.le_add_right ..
  have later : m.stop ≤ patch.span.start := by
    rw [stop, isFor.start, ← List.append_assoc, byteSize_append (before ++ m.text)]
    exact Nat.le_add_right ..
  have same : patch.moved ⟨m.start, m.stop⟩ = ⟨m.start, m.stop⟩ := Patch.moved_before le later
  rw [parts, start, stop, Range.isOf_iff] at stands
  constructor
  · rw [spliced, same, start, stop, byteSize_append]
    exact Span.slice_append ..
  · rw [spliced, same, start, stop, Range.isOf_iff, ← stop]
    exact iff_of_true stands (Or.inl later)

theorem outlives_behind (parts : cs = before ++ (old ++ (between ++ (m.text ++ behind))))
    (start : m.start = byteSize (before ++ (old ++ between)))
    (stop : m.stop = byteSize (before ++ (old ++ between) ++ m.text))
    (stands : x.range.IsOf cs ⟨m.start, m.stop⟩) (isFor : patch.IsFor before old)
    (some : old ≠ []) (feedless : '\n' ∉ patch.newText) : x.Outlives cs patch m := by
  have spliced : patch.splice cs = before ++ (patch.newText ++ between) ++ (m.text ++ behind) := by
    have h : patch.splice (before ++ (old ++ (between ++ (m.text ++ behind)))) =
        before ++ (patch.newText ++ (between ++ (m.text ++ behind))) := isFor.splice
    simpa [parts] using h
  have parts' : cs = before ++ (old ++ between) ++ (m.text ++ behind) := by simp [parts]
  have proper : patch.span.start < patch.span.stop := by
    obtain ⟨c, old, rfl⟩ := List.exists_cons_of_ne_nil some
    have := Char.utf8Size_pos c
    rw [isFor.start, isFor.stop, byteSize_append, byteSize]
    omega
  have moved : patch.moved ⟨m.start, m.stop⟩ = ⟨byteSize (before ++ (patch.newText ++ between)),
      byteSize (before ++ (patch.newText ++ between) ++ m.text)⟩ := by
    have stop' := isFor.stop
    rw [Patch.moved_behind, isFor.start, Span.mk.injEq]
    all_goals simp only [start, stop, isFor.start, isFor.stop, byteSize_append] at *
    all_goals omega
  have gap : (Span.mk patch.span.stop m.start).slice cs = between := by
    rw [start, isFor.stop, parts', ← List.append_assoc, byteSize_append (before ++ old),
      List.append_assoc (before ++ old)]
    exact Span.slice_append ..
  constructor
  · rw [spliced, moved, byteSize_append (before ++ (patch.newText ++ between))]
    exact Span.slice_append ..
  · rw [spliced, moved, Range.isOf_iff, gap]
    have early : ¬ byteSize (before ++ (old ++ between) ++ m.text) ≤ patch.span.start := by
      rw [isFor.start, isFor.stop, byteSize_append] at proper
      simp only [isFor.start, byteSize_append]
      omega
    have kept := foldl_step_replaced_iff old between feedless (before.foldl Place.step ⟨1, 1⟩)
    rw [← List.foldl_append, ← List.foldl_append] at kept
    rw [parts', start, stop, Range.isOf_iff] at stands
    rw [stop, or_iff_right early, parts, isFor.slice, ← kept]
    constructor
    · exact fun h => stands.eq_start h
    · intro same
      have last := congrArg (m.text.foldl Place.step) same
      rw [← List.foldl_append, ← List.foldl_append] at last
      rwa [← same, ← last]

/-- A match outlives the replacement of another one that is apart from it, by words without a line
end. -/
theorem outlives_of_apart {s : Settings} {prose : List Span} {fixed : Match}
    (within : ∀ s ∈ prose, s.Within cs) (h : m ∈ matchesIn s.rules cs prose)
    (h' : fixed ∈ matchesIn s.rules cs prose) (span : patch.span = ⟨fixed.start, fixed.stop⟩)
    (feedless : '\n' ∉ patch.newText) (stands : x.range.IsOf cs ⟨m.start, m.stop⟩)
    (apart : m.stop ≤ fixed.start ∨ fixed.stop ≤ m.start) : x.Outlives cs patch m := by
  obtain ⟨before, behind, parts, start, stop⟩ := exists_parts within h
  obtain ⟨before', behind', parts', start', stop'⟩ := exists_parts within h'
  have isFor : patch.IsFor before' fixed.text := by
    constructor <;> simp [span, start', stop']
  rcases apart with le | le
  · rw [stop, start'] at le
    rw [parts, ← List.append_assoc] at parts'
    obtain ⟨between, rfl, rest⟩ := append_inj_of_byteSize parts' le
    rw [rest] at parts
    rw [List.append_assoc] at isFor
    exact outlives_before parts start stop stands isFor
  · rw [stop', start] at le
    rw [parts', ← List.append_assoc] at parts
    obtain ⟨between, rfl, rest⟩ := append_inj_of_byteSize parts le
    rw [rest] at parts'
    obtain ⟨⟨c, text, first, _⟩, _⟩ := ends_text h'
    exact outlives_behind parts' (by simp [start]) (by simp [stop]) stands isFor (by simp [first])
      feedless

theorem Text.Laid.ordered {at_ : Nat} {ws : List Word} (h : Laid at_ cs ws) :
    (∀ w ∈ ws, at_ ≤ w.start) ∧ ws.Pairwise fun v w => v.stop ≤ w.start := by
  induction h with
  | nil => exact ⟨nofun, .nil⟩
  | cons at_ w rest ws start later ih =>
    obtain ⟨bounds, ordered⟩ := ih
    refine ⟨fun v hv => ?_, List.pairwise_cons.mpr ⟨bounds, ordered⟩⟩
    rcases List.mem_cons.mp hv with rfl | hv
    · omega
    · have := bounds v hv
      unfold Word.stop at this
      omega

theorem Site.matched_apart {ws : List Word} (ordered : ws.Pairwise fun v w => v.stop ≤ w.start)
    {a b : Site} (le : a.behind ≤ b.first) (some : (b.matched ws).words ≠ []) :
    (a.matched ws).stop ≤ (b.matched ws).start := by
  rw [← List.take_append_drop b.first ws] at ordered
  have apart := (List.pairwise_append.mp ordered).2.2
  obtain ⟨w, more, first⟩ := List.exists_cons_of_ne_nil some
  have hw : w ∈ ws.drop b.first := by
    refine List.mem_of_mem_take (i := b.rule.phrase.length) ?_
    simp only [matched] at first
    simp [first]
  rw [Match.start, first, Match.stop]
  cases last : (a.matched ws).words.getLast? with
  | none => exact Nat.zero_le _
  | some v =>
    refine apart v ?_ w hw
    have hv : v ∈ (ws.drop a.first).take a.rule.phrase.length := List.mem_of_getLast? last
    rw [List.take_drop] at hv
    exact List.take_subset_take_left ws le (List.mem_of_mem_drop hv)

/-- The matches in a stretch of prose are apart, one behind the other. -/
theorem matches_ordered (s : Settings) (cs : List Char) (span : Span) :
    (matchesIn s.rules cs [span]).Pairwise fun a b => a.stop ≤ b.start := by
  have proper : ∀ r ∈ s.rules, r.phrase ≠ [] := fun _ hr => phrase_ne_nil_of_rules hr
  obtain ⟨found, takes, scanned⟩ := exists_takes proper 0 (words span.start (span.slice cs)) 0
  rw [List.drop_zero] at scanned
  rw [matchesIn, List.flatMap_singleton, scanned, List.pairwise_map]
  refine takes.ordered.imp_of_mem fun {a b} _ hb le => ?_
  refine Site.matched_apart (laid_words ..).ordered.2 le ?_
  obtain ⟨enabled, matched, _⟩ := of_longestMatch (takes.sound b hb).2.2
  have length := Rule.length_le_of_matchesAt matched
  have ne := List.length_pos_iff.mpr (proper _ enabled)
  rw [Site.matched, ← List.length_pos_iff, List.length_take]
  omega

theorem Rule.feedless_suggestions {r : Rule} (h : r ∈ all) : ∀ v ∈ r.suggestions, '\n' ∉ v.toList := by
  have h' : ∀ r ∈ all, ∀ v ∈ r.suggestions, '\n' ∉ v.toList := by
    decide +kernel
  exact h' r h

theorem exists_append_of_forall₂ {α β : Type} {R : α → β → Prop} {as as' : List α} {bs : List β}
    (h : List.Forall₂ R (as ++ as') bs) :
    ∃ cs cs', bs = cs ++ cs' ∧ List.Forall₂ R as cs ∧ List.Forall₂ R as' cs' :=
  ⟨bs.take as.length, bs.drop as.length, (List.take_append_drop ..).symm,
    (List.forall₂_take_append _ _ _ h.flip).flip, (List.forall₂_drop_append _ _ _ h.flip).flip⟩

namespace Report

def Concerns (report : Report) (settings : Settings) (cs : List Char) (x : Diagnostic) (m : Match) :
    Prop :=
  ∃ message, report.IsFor x message ∧ m.Causes settings .text cs message

/-- What is left of the diagnostics of a report on a plain text when the words of one of them are
replaced, and it is taken out. An editor replaces these words if it takes its range for them. -/
structure Leaves (report : Report) (settings : Settings) (cs : List Char) (x : Diagnostic)
    (value : List Char) (left : List Diagnostic) : Prop where
  others : ∃ xs ys, report.diagnostics = xs ++ x :: ys ∧ left = xs ++ ys
  outlive : ∃ (fixed : Match) (kept : List Match), report.Concerns settings cs x fixed ∧
    (x.range.spanIn cs = ⟨fixed.start, fixed.stop⟩ ↔ ReturnsPaired cs fixed.stop) ∧
    List.Forall₂ (fun y m => report.Concerns settings cs y m ∧
      y.range.IsOf cs ⟨m.start, m.stop⟩ ∧
      y.Outlives cs ⟨⟨fixed.start, fixed.stop⟩, value⟩ m) left kept

variable {report : Report} {settings : Settings} {prose : List Span} {message : Message}

theorem isOf_of_yields (short : byteSize cs + 1 < UInt32.size) (isFor : report.IsFor x message)
    (yields : m.Yields settings .text cs prose message) : x.range.IsOf cs ⟨m.start, m.stop⟩ := by
  rw [isFor.range]
  exact (makes_of_only (v := "") short yields.mem yields.printed).between

theorem within_text (cs : List Char) : ∀ s ∈ [Span.mk 0 (byteSize cs)], s.Within cs :=
  Profile.within_prose (p := .text) rfl (by decide)

theorem forall₂_yields {u : Url} {d : Document} (linted : lint u (some d) settings = .ok report)
    (plain : d.filetype.profile = .text) :
    List.Forall₂ (fun x m => ∃ message, report.IsFor x message ∧
        m.Yields settings .text d.text.toList [⟨0, byteSize d.text.toList⟩] message)
      report.diagnostics
      (matchesIn settings.rules d.text.toList [⟨0, byteSize d.text.toList⟩]) := by
  obtain ⟨messages, checked, rfl⟩ := of_lint linted
  rw [plain] at checked
  have read : Profile.prose .text d.text.toList = .ok [⟨0, byteSize d.text.toList⟩] := rfl
  obtain ⟨messages', checked', yields⟩ :=
    exists_yields (of_check checked).1 read (within_text d.text.toList)
  cases checked.symm.trans checked'
  exact forall₂_trans (fun _ message _ isFor yields => ⟨message, isFor, yields⟩)
    (forall₂_isFor d.filetype settings messages) yields.flip

theorem leaves_of_lint {u : Url} {d : Document} (linted : lint u (some d) settings = .ok report)
    (plain : d.filetype.profile = .text) (short : byteSize d.text.toList + 1 < UInt32.size)
    {xs ys : List Diagnostic} (split : report.diagnostics = xs ++ x :: ys) {value : String}
    (suggested : value ∈ (report.fixesOf x).map QuickFix.value) :
    report.Leaves settings d.text.toList x value.toList (xs ++ ys) := by
  have pairs := forall₂_yields linted plain
  have ordered := matches_ordered settings d.text.toList ⟨0, byteSize d.text.toList⟩
  have within := within_text d.text.toList
  generalize d.text.toList = cs at *
  generalize hf : matchesIn settings.rules cs [⟨0, byteSize cs⟩] = found at pairs ordered
  rw [split] at pairs
  obtain ⟨ms, rest, rfl, before, there⟩ := exists_append_of_forall₂ pairs
  obtain ⟨fixed, ns, ⟨message, isFor, yields⟩, behind, rfl⟩ := List.forall₂_cons_left_iff.mp there
  obtain ⟨_, ordered, apart⟩ := List.pairwise_append.mp ordered
  have later := (List.pairwise_cons.mp ordered).1
  have feedless : '\n' ∉ value.toList := by
    rw [isFor.fixes, yields.suggestions] at suggested
    exact Rule.feedless_suggestions (mem_all_of_rules (of_mem_matchesIn yields.mem).1) _ suggested
  have kept := List.rel_append
    (forall₂_and before (P := fun m => m.stop ≤ fixed.start ∨ fixed.stop ≤ m.start)
      fun m hm => Or.inl (apart m hm fixed List.mem_cons_self))
    (forall₂_and behind (P := fun m => m.stop ≤ fixed.start ∨ fixed.stop ≤ m.start)
      fun m hm => Or.inr (later m hm))
  refine ⟨⟨xs, ys, split, rfl⟩, fixed, ms ++ ns, ⟨message, isFor, yields.toCauses⟩, ?_, ?_⟩
  · rw [isFor.range, spanIn_eq_iff (Nat.lt_of_succ_lt short) within yields.mem yields.printed 0]
    exact and_iff_left fun q hq => (Place.fits_of_short short hq).2
  · refine kept.imp ?_
    rintro y m ⟨⟨message', isFor', yields'⟩, apart⟩
    have stands := isOf_of_yields short isFor' yields'
    exact ⟨⟨message', isFor', yields'.toCauses⟩, stands,
      outlives_of_apart within yields'.mem yields.mem rfl feedless stands apart⟩

end Report

end Considerate
