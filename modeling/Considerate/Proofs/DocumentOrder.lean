import Considerate.Proofs.HtmlPieces
import Considerate.Proofs.Replacement

namespace Considerate

open Text Markup

/-- The point has a line and a column, both from 1. -/
def Point.IsNumbered (p : Point) : Prop :=
  ∃ line column, p = ⟨some line, some column⟩ ∧ 1 ≤ line ∧ 1 ≤ column

/-- The points have numbers, and the first one comes before the other. -/
def Point.Before (a b : Point) : Prop :=
  ∃ line column line' column', a = ⟨some line, some column⟩ ∧ b = ⟨some line', some column'⟩ ∧
    (line < line' ∨ line = line' ∧ column < column')

/-- The points have numbers, and the first one does not come after the other. -/
def Point.UpTo (a b : Point) : Prop :=
  ∃ line column line' column', a = ⟨some line, some column⟩ ∧ b = ⟨some line', some column'⟩ ∧
    (line < line' ∨ line = line' ∧ column ≤ column')

/-- The message starts where its location does, which has numbers, and something is in it. -/
structure Message.IsPlaced (m : Message) : Prop where
  line : m.line = m.location.start.line
  column : m.column = m.location.start.column
  start : m.location.start.IsNumbered
  stop : m.location.stop.IsNumbered
  proper : m.location.start.Before m.location.stop

variable {s : Settings} {profile : Profile} {cs : List Char} {prose : List Span} {span : Span}
  {m m' : Match} {message message' : Message} {p q : Place}

theorem Point.isNumbered_ofPlace (line : 1 ≤ p.line) (line' : p.line < UInt32.size)
    (column : 1 ≤ p.column) (column' : p.column < UInt32.size) : (ofPlace p).IsNumbered := by
  refine ⟨_, _, rfl, ?_, ?_⟩
  · rwa [UInt32.le_iff_toNat_le, UInt32.toNat_ofNat_of_lt' line']
  · rwa [UInt32.le_iff_toNat_le, UInt32.toNat_ofNat_of_lt' column']

theorem Point.before_ofPlace (h : p.Lt q) (line : p.line < UInt32.size)
    (column : p.column < UInt32.size) (line' : q.line < UInt32.size)
    (column' : q.column < UInt32.size) : (ofPlace p).Before (ofPlace q) := by
  refine ⟨_, _, _, _, rfl, rfl, ?_⟩
  simp only [UInt32.lt_iff_toNat_lt, ← UInt32.toNat_inj, UInt32.toNat_ofNat_of_lt' line,
    UInt32.toNat_ofNat_of_lt' column, UInt32.toNat_ofNat_of_lt' line',
    UInt32.toNat_ofNat_of_lt' column']
  exact h

/-- This needs no number for the column of the first place, as a number that has run out is less. -/
theorem Point.upTo_ofPlace (h : p.Le q) (line : q.line < UInt32.size)
    (column : q.column < UInt32.size) : (ofPlace p).UpTo (ofPlace q) := by
  refine ⟨_, _, _, _, rfl, rfl, ?_⟩
  unfold Place.Le at h
  have line' : p.line < UInt32.size := by omega
  have low : (UInt32.ofNat p.column).toNat ≤ p.column := by
    rw [UInt32.toNat_ofNat']
    exact Nat.mod_le ..
  simp only [UInt32.lt_iff_toNat_lt, UInt32.le_iff_toNat_le, ← UInt32.toNat_inj,
    UInt32.toNat_ofNat_of_lt' line, UInt32.toNat_ofNat_of_lt' line',
    UInt32.toNat_ofNat_of_lt' column]
  omega

/-- What is found in a stretch of prose does not reach beyond it. -/
theorem bounds_of_mem (within : span.Within cs) (h : m ∈ matchesIn s.rules cs [span]) :
    span.start ≤ m.start ∧ m.stop ≤ span.stop := by
  obtain ⟨site, rfl, enabled, matched⟩ := exists_site h
  obtain ⟨before, inside, behind, rfl, rfl⟩ := within
  generalize hw : stretchWords _ _ site.stretch = ws at *
  have laid : Laid (byteSize before) inside ws := by
    rw [← hw, stretchWords]
    split
    · exact .nil ..
    · rename_i x hx
      rw [List.mem_singleton.mp (List.mem_of_getElem? hx), Span.slice_append]
      exact laid_words ..
  obtain ⟨skipped, rest, rfl, start, stop⟩ := laid.matched site (phrase_ne_nil_of_rules enabled)
    (Rule.length_le_of_matchesAt matched)
  simp only [byteSize_append]
  omega

/-- What is found in stretches of prose that are apart is apart, one behind the other. -/
theorem pairwise_matchesIn (within : ∀ x ∈ prose, x.Within cs)
    (ordered : prose.Pairwise fun a b => a.stop ≤ b.start) :
    (matchesIn s.rules cs prose).Pairwise fun a b => a.stop ≤ b.start := by
  have stretches : matchesIn s.rules cs prose =
      prose.flatMap fun x => matchesIn s.rules cs [x] := by
    simp only [matchesIn, List.flatMap_singleton]
  rw [stretches, List.pairwise_flatMap]
  refine ⟨fun x _ => matches_ordered s cs x, ordered.imp_of_mem fun {x y} hx hy le a ha b hb => ?_⟩
  have := bounds_of_mem (within x hx) ha
  have := bounds_of_mem (within y hy) hb
  omega

theorem place_lt (within : ∀ x ∈ prose, x.Within cs) (h : m ∈ matchesIn s.rules cs prose)
    (hp : placeAt cs m.start = some p) (hq : placeAt cs m.stop = some q) : p.Lt q := by
  obtain ⟨⟨c, text, first, _, back⟩, _⟩ := ends_text h
  obtain ⟨before, behind, rfl, start, stop⟩ := exists_parts within h
  rw [start, placeAt, Place.advance_append] at hp
  rw [stop, ← List.append_assoc, placeAt, Place.advance_append] at hq
  cases hp
  cases hq
  rw [List.foldl_append, first, List.foldl_cons]
  exact (Place.lt_step back _).trans_le (Place.le_foldl_step _ text)

theorem isPlaced_of_mem (short : byteSize cs + 1 < UInt32.size) (within : ∀ x ∈ prose, x.Within cs)
    (h : m ∈ matchesIn s.rules cs prose) (hm : m.message cs = some message) : message.IsPlaced := by
  obtain ⟨p, q, hp, hq, ends, spans⟩ := exists_places (Nat.lt_of_succ_lt short) h hm
  have fits := (Place.fits_of_short short hq).2
  constructor <;> simp only [spans.line, spans.column, spans.location]
  · rfl
  · rfl
  · exact Point.isNumbered_ofPlace ends.line ends.startLine ends.column ends.startColumn
  · exact Point.isNumbered_ofPlace (ends.line.trans ends.lines) ends.stopLine ends.column' fits
  · exact Point.before_ofPlace (place_lt within h hp hq) ends.startLine ends.startColumn
      ends.stopLine fits

/-- A message stops no later than another one starts whose match is behind its own. -/
theorem upTo_of_le (short : byteSize cs < UInt32.size) (h : m ∈ matchesIn s.rules cs prose)
    (h' : m' ∈ matchesIn s.rules cs prose) (hm : m.message cs = some message)
    (hm' : m'.message cs = some message') (le : m.stop ≤ m'.start) :
    message.location.stop.UpTo message'.location.start := by
  obtain ⟨_, q, _, hq, _, spans⟩ := exists_places short h hm
  obtain ⟨p', q', hp', _, ends', spans'⟩ := exists_places short h' hm'
  rw [spans.location, spans'.location]
  exact Point.upTo_ofPlace (Place.le_of_le hq hp' le) ends'.startLine ends'.startColumn

theorem exists_ordered_prose (plain : profile = .text ∨ profile = .html) (cs : List Char) :
    ∃ prose, profile.prose cs = .ok prose ∧ (∀ x ∈ prose, x.Within cs) ∧
      prose.Pairwise fun a b => a.stop ≤ b.start := by
  have named : profile ≠ .markdown ∧ profile ≠ .mdx := by
    rcases plain with rfl | rfl <;> decide
  obtain ⟨prose, read, ordered⟩ : ∃ prose, profile.prose cs = .ok prose ∧
      prose.Pairwise fun a b => a.stop ≤ b.start := by
    rcases plain with rfl | rfl
    · exact ⟨_, rfl, List.pairwise_singleton ..⟩
    · exact ⟨_, rfl, (Html.pairwise_prose cs).imp Nat.le_of_lt⟩
  exact ⟨prose, read, Profile.within_prose read named, ordered⟩

/-- The messages on a document of less than 2³² - 1 bytes are in document order. Each has numbers for
where it starts and stops, which is behind that, and it stops no later than the next one starts.
They are about matches that do not overlap. The prose of Markdown has to be within the document,
one stretch behind the other. -/
theorem messages_in_document_order (s : Settings) (profile : Profile) (document : String)
    (valid : s.conflicting = false) (short : byteSize document.toList + 1 < UInt32.size)
    (reader : profile = .markdown ∨ profile = .mdx →
      ∃ prose, profile.prose document.toList = .ok prose ∧
        (∀ x ∈ prose, x.Within document.toList) ∧ prose.Pairwise fun a b => a.stop ≤ b.start) :
    ∃ messages, check s profile document = .ok messages ∧
      (∀ message ∈ messages, message.IsPlaced) ∧
      messages.Pairwise (fun a b => a.location.stop.UpTo b.location.start) ∧
      ∃ found : List Match, found.Pairwise (fun a b => a.stop ≤ b.start) ∧
        List.Forall₂ (Match.Causes s profile document.toList) found messages := by
  obtain ⟨prose, read, within, ordered⟩ : ∃ prose, profile.prose document.toList = .ok prose ∧
      (∀ x ∈ prose, x.Within document.toList) ∧ prose.Pairwise fun a b => a.stop ≤ b.start := by
    by_cases marked : profile = .markdown ∨ profile = .mdx
    · exact reader marked
    · refine exists_ordered_prose ?_ document.toList
      cases profile <;> simp at marked ⊢
  obtain ⟨messages, checked, yields⟩ := exists_yields valid read within
  have apart := pairwise_matchesIn (s := s) within ordered
  refine ⟨messages, checked, fun message hm => ?_, ?_, _, apart, yields.imp fun _ _ h => h.toCauses⟩
  · obtain ⟨m, _, yield⟩ := exists_left_of_mem yields hm
    exact isPlaced_of_mem short within yield.mem yield.printed
  · refine pairwise_of_forall₂ (fun a b m m' h h' le => ?_) yields.flip apart
    exact upTo_of_le (Nat.lt_of_succ_lt short) h.mem h'.mem h.printed h'.printed le

/-- A document in Markdown with a word in each of two lines, the first of which is emphasised. -/
theorem messages_in_document_order_emphasised :
    Settings.conflicting {} = false ∧
    byteSize "é *guys*\r\nguys".toList + 1 < UInt32.size ∧
    (∃ prose, Profile.prose .markdown "é *guys*\r\nguys".toList = .ok prose ∧
      (∀ x ∈ prose, x.Within "é *guys*\r\nguys".toList) ∧
      prose.Pairwise fun a b => a.stop ≤ b.start) ∧
    ∃ messages, check {} .markdown "é *guys*\r\nguys" = .ok messages ∧
      (∀ message ∈ messages, message.IsPlaced) ∧
      messages.Pairwise (fun a b => a.location.stop.UpTo b.location.start) ∧
      ∃ found : List Match, found.Pairwise (fun a b => a.stop ≤ b.start) ∧
        List.Forall₂ (Match.Causes {} .markdown "é *guys*\r\nguys".toList) found messages := by
  have short : byteSize "é *guys*\r\nguys".toList + 1 < UInt32.size := by decide
  have reader : ∃ prose, Profile.prose .markdown "é *guys*\r\nguys".toList = .ok prose ∧
      (∀ x ∈ prose, x.Within "é *guys*\r\nguys".toList) ∧
      prose.Pairwise fun a b => a.stop ≤ b.start := by
    refine ⟨[⟨0, 3⟩, ⟨4, 8⟩, ⟨9, 15⟩], by decide +kernel, ?_, by decide⟩
    simp only [← isSome_slice?_iff]
    decide
  exact ⟨rfl, short, reader,
    messages_in_document_order {} .markdown "é *guys*\r\nguys" rfl short fun _ => reader⟩

/-- The message on a word at the end of the longest line that a document can have does not stop
behind its start, as there is no number for the column behind the word. -/
theorem last_word_not_placed :
    let text := String.ofList (behindMarks 4294967291 "guys".toList)
    byteSize text.toList < UInt32.size ∧ Settings.conflicting {} = false ∧
    ∃ message, check {} .text text = .ok [message] ∧ ¬ message.location.stop.IsNumbered ∧
      ¬ message.location.start.Before message.location.stop := by
  intro text
  have latin : IsLatin "guys".toList := ⟨List.all_eq_true.mp (by decide), by decide⟩
  have bytes : byteSize text.toList = UInt32.size - 1 := by
    rw [String.toList_ofList, byteSize_behindMarks latin]
    rfl
  obtain ⟨message, only, -, spans⟩ := check_behindMarks (s := {}) rfl latin
    (r := ⟨"guys", ["guys"], .insensitive ["people", "folks", "everyone"]⟩) (by decide +kernel)
    (by simp) 4294967291
  refine ⟨by rw [bytes]; decide, rfl, message, only, ?_, ?_⟩ <;> rw [spans.location]
  · rintro ⟨line, column, numbers, -, some⟩
    cases numbers
    exact absurd some (by decide)
  · rintro ⟨line, column, line', column', starts, stops, before⟩
    cases starts
    cases stops
    revert before
    decide

end Considerate
