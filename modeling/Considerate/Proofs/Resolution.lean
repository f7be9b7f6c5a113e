import Considerate.Proofs.Formatting

namespace Considerate

namespace Text

/-- Whether a line ends with `c` before `cs`: it is a line feed, or a carriage return without one. -/
def endsLine (c : Char) (cs : List Char) : Bool :=
  c = '\n' || c = '\r' && cs.head? ≠ some '\n'

/-- The byte of a text at a line and a character, both counted from 0. A character behind the end of
its line is that end, and one between two code units is where these begin. -/
def byteAt : List Char → Nat → Nat → Nat
  | [], _, _ => 0
  | c :: cs, 0, n =>
    if c = '\n' ∨ c = '\r' ∨ n < units c then 0 else c.utf8Size + byteAt cs 0 (n - units c)
  | c :: cs, l + 1, n => c.utf8Size + byteAt cs (if endsLine c cs then l else l + 1) n

/-- Each carriage return in the first `n` bytes stands before a line feed. -/
def ReturnsPaired (cs : List Char) (n : Nat) : Prop :=
  ∀ a b, cs = a ++ '\r' :: b → byteSize a < n → b.head? = some '\n'

/-- The number of lines that end in the first text, with the second one behind it. -/
def lineEnds : List Char → List Char → Nat
  | [], _ => 0
  | c :: a, b => lineEnds a b + if endsLine c (a ++ b) then 1 else 0

variable {p : Place} {c : Char} {cs a b : List Char} {l n : Nat}

theorem units_pos (c : Char) : 0 < units c := by
  unfold units
  split <;> decide

theorem byteAt_zero (cs : List Char) : byteAt cs 0 0 = 0 := by
  cases cs with
  | nil => rfl
  | cons c cs => simp [byteAt, units_pos c]

theorem ReturnsPaired.mono {m : Nat} (h : ReturnsPaired cs n) (le : m ≤ n) : ReturnsPaired cs m :=
  fun a b parts lt => h a b parts (Nat.lt_of_lt_of_le lt le)

theorem ReturnsPaired.tail (h : ReturnsPaired (c :: cs) (c.utf8Size + n)) : ReturnsPaired cs n := by
  rintro a b rfl lt
  exact h (c :: a) b rfl (by simp only [byteSize]; omega)

/-- What stands before another character than a line feed does not end with a carriage return. -/
theorem ReturnsPaired.closed {before text : List Char} (h : ReturnsPaired (before ++ c :: text) n)
    (le : byteSize before ≤ n) (feed : c ≠ '\n') : before.getLast? ≠ some '\r' := by
  intro last
  obtain ⟨before, rfl⟩ := List.getLast?_eq_some_iff.mp last
  have one : ('\r' : Char).utf8Size = 1 := rfl
  simp only [byteSize_append, byteSize] at le
  have next := h before (c :: text) (by simp) (by omega)
  exact feed (Option.some.inj next)

theorem byteAt_return (next : cs.head? = some '\n') (l n : Nat) :
    byteAt ('\r' :: cs) (l + 1) n = ('\r' : Char).utf8Size + byteAt cs (l + 1) n := by
  rw [byteAt, if_neg (by simp [endsLine, next])]

theorem byteAt_inside (feed : c ≠ '\n') (back : c ≠ '\r') (cs : List Char) (n : Nat) :
    byteAt (c :: cs) 0 (units c + n) = c.utf8Size + byteAt cs 0 n ∧
      ∀ l, byteAt (c :: cs) (l + 1) n = c.utf8Size + byteAt cs (l + 1) n := by
  constructor
  · rw [byteAt, if_neg (by simp [feed, back]), Nat.add_sub_cancel_left]
  · intro l
    rw [byteAt, if_neg (by simp [endsLine, feed, back])]

/-- Counted from the place `p`, at which the text begins, the editor takes the place `q` for byte
`n`. -/
structure TakenFor (p q : Place) (cs : List Char) (n : Nat) : Prop where
  here : q.line = p.line → byteAt cs 0 (q.column - p.column) = n
  below : p.line < q.line → byteAt cs (q.line - p.line) (q.column - 1) = n

theorem TakenFor.feed {q : Place} (h : TakenFor (p.step '\n') q cs n) (le : (p.step '\n').Le q) :
    TakenFor p q ('\n' :: cs) (('\n' : Char).utf8Size + n) := by
  have line : p.line + 1 ≤ q.line := by
    simp only [Place.Le, Place.step, if_true] at le
    omega
  refine ⟨fun same => by omega, fun _ => ?_⟩
  rw [show q.line - p.line = q.line - (p.line + 1) + 1 by omega, byteAt,
    if_pos (by simp [endsLine])]
  congr 1
  rcases Nat.lt_or_eq_of_le line with lt | same
  · exact h.below lt
  · rw [← same, Nat.sub_self]
    exact h.here same.symm

theorem TakenFor.back {q : Place} (h : TakenFor (p.step '\r') q cs n)
    (next : cs.head? = some '\n') (lt : p.line < q.line) :
    TakenFor p q ('\r' :: cs) (('\r' : Char).utf8Size + n) := by
  refine ⟨fun same => by omega, fun _ => ?_⟩
  have below := h.below lt
  have stays : p.step '\r' = p := rfl
  rw [stays] at below
  obtain ⟨l, hl⟩ : ∃ l, q.line - p.line = l + 1 := ⟨q.line - p.line - 1, by omega⟩
  rw [hl] at below ⊢
  rw [byteAt_return next, below]

theorem TakenFor.inside {q : Place} (h : TakenFor (p.step c) q cs n) (le : (p.step c).Le q)
    (feed : c ≠ '\n') (back : c ≠ '\r') : TakenFor p q (c :: cs) (c.utf8Size + n) := by
  have on : p.step c = ⟨p.line, p.column + units c⟩ := by
    rw [Place.step, if_neg feed, if_neg back]
  rw [on] at h le
  obtain ⟨here, below⟩ := h
  simp only [Place.Le] at here below le
  constructor
  · intro same
    rw [show q.column - p.column = units c + (q.column - (p.column + units c)) by omega,
      (byteAt_inside feed back ..).1, here same]
  · intro lt
    obtain ⟨l, hl⟩ : ∃ l, q.line - p.line = l + 1 := ⟨q.line - p.line - 1, by omega⟩
    rw [hl, (byteAt_inside feed back ..).2, ← hl, below lt]

/-- Where carriage returns stand before line feeds, the editor takes the place that was counted for
the one it is. -/
theorem takenFor_foldl_step (p : Place) (paired : ReturnsPaired (a ++ b) (byteSize a))
    (closed : a.getLast? ≠ some '\r') :
    TakenFor p (a.foldl Place.step p) (a ++ b) (byteSize a) := by
  induction a generalizing p with
  | nil => exact ⟨fun _ => by simp [byteSize, byteAt_zero], fun lt => (Nat.lt_irrefl _ lt).elim⟩
  | cons c a ih =>
    have closed' : a.getLast? ≠ some '\r' := by
      cases a with
      | nil => simp
      | cons d a => rwa [List.getLast?_cons_cons] at closed
    have later := ih (p.step c) paired.tail closed'
    have le := (p.step c).le_foldl_step a
    by_cases feed : c = '\n'
    · subst feed
      exact later.feed le
    by_cases back : c = '\r'
    · -- A line feed follows, which is counted.
      subst back
      have next : (a ++ b).head? = some '\n' := paired [] (a ++ b) rfl (by
        have : ('\r' : Char).utf8Size = 1 := rfl
        simp only [byteSize]
        omega)
      refine later.back next ?_
      rw [line_foldl_step]
      cases a with
      | nil => exact (closed rfl).elim
      | cons d a =>
        rw [List.cons_append, List.head?_cons, Option.some.injEq] at next
        subst next
        rw [List.count_cons_self]
        exact Nat.lt_add_of_pos_right (Nat.succ_pos _)
    · exact later.inside le feed back

theorem lineEnds_append (a a' b : List Char) :
    lineEnds (a ++ a') b = lineEnds a (a' ++ b) + lineEnds a' b := by
  induction a with
  | nil => simp [lineEnds]
  | cons c a ih =>
    simp only [List.cons_append, lineEnds, ih, List.append_assoc]
    omega

theorem count_le_lineEnds (a b : List Char) : a.count '\n' ≤ lineEnds a b := by
  induction a with
  | nil => simp
  | cons c a ih =>
    rw [List.count_cons, lineEnds]
    by_cases feed : c = '\n'
    · simp [feed, endsLine, ih]
    · simp [feed]
      omega

/-- A carriage return that stands alone ends a line that no line feed ends. -/
theorem count_lt_lineEnds (h : ¬ ReturnsPaired (a ++ b) (byteSize a)) :
    a.count '\n' < lineEnds a b := by
  simp only [ReturnsPaired, not_forall] at h
  obtain ⟨x, y, parts, lt, alone⟩ := h
  obtain ⟨e, rfl, he⟩ := append_inj_of_byteSize parts.symm (Nat.le_of_lt lt)
  cases e with
  | nil => simp at lt
  | cons d e =>
    obtain ⟨rfl, rfl⟩ := List.cons.inj he
    have ends : endsLine '\r' (e ++ b) = true := by
      simp only [endsLine, Bool.or_eq_true, Bool.and_eq_true, decide_eq_true_eq]
      exact Or.inr ⟨trivial, alone⟩
    have before := count_le_lineEnds x (('\r' :: e) ++ b)
    have behind := count_le_lineEnds e b
    rw [lineEnds_append, lineEnds, if_pos ends, List.count_append, List.count_cons_of_ne (by decide)]
    omega

/-- A line that ends in the first text lies in it. -/
theorem byteAt_lt (h : l < lineEnds a b) (n : Nat) : byteAt (a ++ b) l n < byteSize a := by
  induction a generalizing l n with
  | nil => cases h
  | cons c a ih =>
    have pos := Char.utf8Size_pos c
    rw [lineEnds] at h
    rw [List.cons_append, byteSize]
    cases l with
    | zero =>
      rw [byteAt]
      split
      · omega
      · rename_i inside
        simp only [not_or] at inside
        have on : endsLine c (a ++ b) = false := by simp [endsLine, inside.1, inside.2.1]
        rw [on] at h
        have := ih h (n - units c)
        omega
    | succ l =>
      rw [byteAt]
      split at h
      · rename_i ends
        have := ih (l := l) (by omega) n
        rw [if_pos ends]
        omega
      · rename_i on
        have := ih (l := l + 1) (by omega) n
        rw [if_neg on]
        omega

/-- The editor finds the place behind a text that does not end with a carriage return if all of these
stand before line feeds. Else it finds one before it, at whichever character. -/
theorem byteAt_eq_iff (closed : a.getLast? ≠ some '\r') :
    let q := a.foldl Place.step ⟨1, 1⟩
    (byteAt (a ++ b) (q.line - 1) (q.column - 1) = byteSize a ↔
      ReturnsPaired (a ++ b) (byteSize a)) ∧
    ∀ n, byteAt (a ++ b) (q.line - 1) n = byteSize a → ReturnsPaired (a ++ b) (byteSize a) := by
  intro q
  have early : ∀ n, byteAt (a ++ b) (q.line - 1) n = byteSize a →
      ReturnsPaired (a ++ b) (byteSize a) := by
    intro n found
    by_contra alone
    have lt := count_lt_lineEnds alone
    have line : q.line = 1 + a.count '\n' := line_foldl_step ⟨1, 1⟩ a
    have := byteAt_lt (a := a) (b := b) (l := q.line - 1) (by omega) n
    omega
  refine ⟨⟨early _, fun paired => ?_⟩, early⟩
  obtain ⟨here, below⟩ := takenFor_foldl_step ⟨1, 1⟩ paired closed
  have line : q.line = 1 + a.count '\n' := line_foldl_step ⟨1, 1⟩ a
  rcases Nat.eq_or_lt_of_le (show 1 ≤ q.line by omega) with same | lt
  · rw [← same]
    exact here same.symm
  · exact below lt

end Text

open Text Markup

def Position.byteIn (p : Position) (cs : List Char) : Nat :=
  byteAt cs p.line.toNat p.character.toNat

/-- The part of a text that an editor takes a range for. -/
def Range.spanIn (r : Range) (cs : List Char) : Span := ⟨r.start.byteIn cs, r.stop.byteIn cs⟩

variable {s : Settings} {cs : List Char} {prose : List Span} {m : Match} {message : Message}

theorem Text.Word.not_lineEnd_of_spells {w : Word} {phrase : String} (h : w.spells phrase = true)
    (letters : phrase.toList ≠ [] ∧ ∀ c ∈ phrase.toList, c.isLower = true) :
    w.text ≠ [] ∧ ∀ c ∈ w.text, c ≠ '\n' ∧ c ≠ '\r' := by
  rw [Word.spells, beq_iff_eq] at h
  rw [← h] at letters
  obtain ⟨nonempty, lower⟩ := letters
  refine ⟨fun empty => nonempty (by rw [empty]; rfl), fun c hc => ?_⟩
  have small := lower _ (List.mem_map_of_mem hc)
  constructor <;>
  · rintro rfl
    revert small
    decide

/-- The text of a match starts and stops with words. -/
theorem ends_text (h : m ∈ matchesIn s.rules cs prose) :
    (∃ c text, m.text = c :: text ∧ c ≠ '\n' ∧ c ≠ '\r') ∧
      ∃ text c, m.text = text ++ [c] ∧ c ≠ '\n' ∧ c ≠ '\r' := by
  obtain ⟨hr, spelled, _⟩ := of_mem_matchesIn h
  have ne := phrase_ne_nil_of_rules hr
  have plain : ∀ w ∈ m.words, w.text ≠ [] ∧ ∀ c ∈ w.text, c ≠ '\n' ∧ c ≠ '\r' := by
    intro w hw
    obtain ⟨p, hp, hs⟩ := exists_left_of_mem spelled hw
    exact w.not_lineEnd_of_spells hs (Rule.letters_phrase (mem_all_of_rules hr) p hp)
  unfold Match.text
  cases hw : m.words with
  | nil =>
    rw [hw] at spelled
    exact (ne (List.forall₂_nil_right_iff.mp spelled)).elim
  | cons w ws =>
    rw [hw] at plain
    constructor
    · obtain ⟨nonempty, visible⟩ := plain w List.mem_cons_self
      obtain ⟨c, text, ht⟩ := List.exists_cons_of_ne_nil nonempty
      exact ⟨c, text ++ ws.flatMap fun v => v.gap ++ v.text, by simp [ht],
        visible c (by simp [ht])⟩
    · rcases List.eq_nil_or_concat ws with rfl | ⟨ws, v, rfl⟩
      · obtain ⟨nonempty, visible⟩ := plain w List.mem_cons_self
        obtain ⟨text, c, ht⟩ := List.eq_nil_or_concat w.text |>.resolve_left nonempty
        exact ⟨text, c, by simp [ht], visible c (by simp [ht])⟩
      · obtain ⟨nonempty, visible⟩ := plain v (by simp)
        obtain ⟨text, c, ht⟩ := List.eq_nil_or_concat v.text |>.resolve_left nonempty
        exact ⟨w.text ++ (ws.flatMap fun v => v.gap ++ v.text) ++ v.gap ++ text, c, by simp [ht],
          visible c (by simp [ht])⟩

theorem exists_parts (within : ∀ s ∈ prose, s.Within cs) (h : m ∈ matchesIn s.rules cs prose) :
    ∃ before behind, cs = before ++ (m.text ++ behind) ∧ m.start = byteSize before ∧
      m.stop = byteSize (before ++ m.text) := by
  obtain ⟨site, matched, rfl⟩ := exists_isMatch within h
  obtain ⟨before, behind, parts, start, stop⟩ := exists_ends within matched
  exact ⟨before, behind, parts, start, by rw [byteSize_append, stop]⟩

/-- An editor takes the range of a diagnostic for the words that were found if each carriage return
before their end stands before a line feed and there is a number for the column at their end. -/
theorem spanIn_eq_iff (small : byteSize cs < UInt32.size) (within : ∀ s ∈ prose, s.Within cs)
    (h : m ∈ matchesIn s.rules cs prose) (hm : m.message cs = some message) (k : Nat) :
    (Diagnostic.ofMessage k message).range.spanIn cs = ⟨m.start, m.stop⟩ ↔
      ReturnsPaired cs m.stop ∧ ∀ q, placeAt cs m.stop = some q → q.column < UInt32.size := by
  obtain ⟨p, q, hp, hq, ends, spans⟩ := exists_places small h hm
  obtain ⟨startLine, startColumn, stopLine, stopColumn, last⟩ := range_ofMessage ends spans k
  obtain ⟨⟨c, text, first, feed, _⟩, ⟨text', d, final, _, back⟩⟩ := ends_text h
  obtain ⟨before, behind, rfl, start, stop⟩ := exists_parts within h
  generalize (Diagnostic.ofMessage k message).range = range at *
  have whole : before ++ (m.text ++ behind) = (before ++ m.text) ++ behind := by simp
  have hp' : before.foldl Place.step ⟨1, 1⟩ = p := by
    rw [start, placeAt, Place.advance_append] at hp
    exact Option.some.inj hp
  have hq' : (before ++ m.text).foldl Place.step ⟨1, 1⟩ = q := by
    rw [stop, whole, placeAt, Place.advance_append] at hq
    exact Option.some.inj hq
  have closed : (before ++ m.text).getLast? ≠ some '\r' := by
    rw [final, ← List.append_assoc, List.getLast?_concat, Ne, Option.some.injEq]
    exact back
  obtain ⟨found, early⟩ := byteAt_eq_iff (b := behind) closed
  rw [← whole, hq', ← stop] at found early
  rw [Range.spanIn, Span.mk.injEq, Position.byteIn, Position.byteIn, startLine, startColumn,
    stopLine]
  constructor
  · rintro ⟨atStart, atStop⟩
    refine ⟨early _ atStop, fun q' hq'' => ?_⟩
    cases hq.symm.trans hq''
    by_contra past
    have column := Nat.le_antisymm ends.stopColumn (Nat.le_of_not_lt past)
    rw [last column, ends.last column, atStart, start, stop, byteSize_append, first] at atStop
    have := Char.utf8Size_pos c
    simp only [byteSize] at atStop
    omega
  · rintro ⟨paired, fits⟩
    refine ⟨?_, ?_⟩
    · have le : byteSize before ≤ m.stop := by simp [stop]
      have closed' : before.getLast? ≠ some '\r' := by
        rw [first] at paired
        exact ReturnsPaired.closed paired le feed
      have atStart := (byteAt_eq_iff (b := m.text ++ behind) closed').1.mpr (paired.mono le)
      rwa [hp', ← start] at atStart
    · rw [stopColumn (fits q hq)]
      exact found.mpr paired

theorem forall₂_and {α β : Type} {R : α → β → Prop} {P : β → Prop} {as : List α} {bs : List β}
    (h : List.Forall₂ R as bs) (hp : ∀ b ∈ bs, P b) :
    List.Forall₂ (fun a b => R a b ∧ P b) as bs := by
  induction h with
  | nil => exact .nil
  | cons r _ ih =>
    exact .cons ⟨r, hp _ List.mem_cons_self⟩ (ih fun b hb => hp b (List.mem_cons_of_mem _ hb))

/-- Linting a plain document of less than 2³² bytes gives a diagnostic for each message, and each
message is about a match. An editor takes the range of the diagnostic for the words of the match if
each carriage return before their end stands before a line feed and there is a number for the column
at their end, and for something else if not. -/
theorem ranges_resolve (url : Url) (d : Document) (settings : Settings)
    (plain : d.filetype.profile = .text) (valid : settings.conflicting = false)
    (short : byteSize d.text.toList < UInt32.size) :
    ∃ messages report, check settings d.filetype.profile d.text = .ok messages ∧
      lint url (some d) settings = .ok report ∧
      List.Forall₂ (fun x message => report.IsFor x message ∧
          ∃ m : Match, m.Causes settings d.filetype.profile d.text.toList message ∧
            (x.range.spanIn d.text.toList = ⟨m.start, m.stop⟩ ↔
              ReturnsPaired d.text.toList m.stop ∧
              ∀ q, placeAt d.text.toList m.stop = some q → q.column < UInt32.size))
        report.diagnostics messages := by
  have named : d.filetype.profile ≠ .markdown ∧ d.filetype.profile ≠ .mdx := by
    rw [plain]
    decide
  obtain ⟨prose, read⟩ : ∃ prose, d.filetype.profile.prose d.text.toList = .ok prose := by
    rw [plain]
    exact ⟨_, rfl⟩
  have within := Profile.within_prose read named
  obtain ⟨messages, checked, yields⟩ := exists_yields valid read within
  refine ⟨messages, .ofMessages d.filetype settings messages, checked, by rw [lint, checked], ?_⟩
  have about : ∀ message ∈ messages, ∃ m : Match,
      m.Yields settings d.filetype.profile d.text.toList prose message := fun message hm =>
    (exists_left_of_mem yields hm).imp fun _ h => h.2
  refine (forall₂_and (Report.forall₂_isFor d.filetype settings messages) about).imp ?_
  rintro x message ⟨isFor, m, yields⟩
  refine ⟨isFor, m, yields.toCauses, ?_⟩
  rw [isFor.range]
  exact spanIn_eq_iff short within yields.mem yields.printed 0

/-- Behind a pair of a carriage return and a line feed ranges are still taken for the words that were
found, and behind a carriage return that stands alone they are not. -/
theorem ranges_resolve_until_lone_return :
    Filetype.profile .plainText = .text ∧ Settings.conflicting {} = false ∧
    byteSize "the guys\r\nguys\rguys".toList < UInt32.size ∧
    ∃ report, lint { scheme := "file", path := .segments ["a.txt"] }
        (some ⟨"the guys\r\nguys\rguys", 1, .plainText⟩) {} = .ok report ∧
      report.diagnostics.map (fun x => x.range.spanIn "the guys\r\nguys\rguys".toList) =
        [⟨4, 8⟩, ⟨10, 14⟩, ⟨14, 14⟩] := by
  have short : byteSize "the guys\r\nguys\rguys".toList < UInt32.size := by decide
  refine ⟨rfl, rfl, short, ?_⟩
  obtain ⟨messages, report, checked, linted, resolved⟩ :=
    ranges_resolve { scheme := "file", path := .segments ["a.txt"] }
      ⟨"the guys\r\nguys\rguys", 1, .plainText⟩ {} rfl rfl short
  refine ⟨report, linted, ?_⟩
  have spans : (lint { scheme := "file", path := .segments ["a.txt"] }
      (some ⟨"the guys\r\nguys\rguys", 1, .plainText⟩) {}).toOption.map
      (·.diagnostics.map fun x => x.range.spanIn "the guys\r\nguys\rguys".toList) =
        some [⟨4, 8⟩, ⟨10, 14⟩, ⟨14, 14⟩] := by
    decide +kernel
  rw [linted] at spans
  exact Option.some.inj spans

/-- Behind a carriage return that stands alone a word is found, and an editor takes the range of its
diagnostic for nothing. -/
theorem range_behind_lone_return :
    Profile.prose .text "a\rguys".toList = .ok [⟨0, 6⟩] ∧
    (matchesIn (Settings.rules {}) "a\rguys".toList [⟨0, 6⟩]).map
      (fun m => (m.rule.id, Span.mk m.start m.stop)) = [("guys", ⟨2, 6⟩)] ∧
    ∃ report x, lint { scheme := "file", path := .segments ["a.txt"] }
        (some ⟨"a\rguys", 1, .plainText⟩) {} = .ok report ∧
      report.diagnostics = [x] ∧ x.range = ⟨⟨0, 1⟩, ⟨0, 5⟩⟩ ∧
      x.range.spanIn "a\rguys".toList = ⟨1, 1⟩ := by
  refine ⟨by decide +kernel, by decide +kernel, ?_⟩
  have ranges : (lint { scheme := "file", path := .segments ["a.txt"] }
      (some ⟨"a\rguys", 1, .plainText⟩) {}).toOption.map
      (·.diagnostics.map Diagnostic.range) = some [⟨⟨0, 1⟩, ⟨0, 5⟩⟩] := by
    decide +kernel
  cases linted : lint { scheme := "file", path := .segments ["a.txt"] }
      (some ⟨"a\rguys", 1, .plainText⟩) {} with
  | error e =>
    rw [linted] at ranges
    cases ranges
  | ok report =>
    rw [linted] at ranges
    obtain ⟨x, hx, range⟩ := List.map_eq_singleton_iff.mp (Option.some.inj ranges)
    exact ⟨report, x, rfl, hx, range, by rw [range]; decide⟩

end Considerate
