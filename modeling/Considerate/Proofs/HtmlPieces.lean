import Considerate.Proofs.Slices

namespace Considerate

def Text.Span.holds (s : Span) (n : Nat) : Bool := s.start ≤ n && n < s.stop

theorem Text.Span.holds_iff {start stop n : Nat} :
    Span.holds ⟨start, stop⟩ n = true ↔ start ≤ n ∧ n < stop := by
  simp [Span.holds]

namespace Markup.Html

open Text

def IsTag (tag : List Char) : Prop := ∃ inside, tag = '<' :: (inside ++ ['>']) ∧ '>' ∉ inside

/-- The tag has the name of an element behind its `<`, in any letter case, and a `>` or white space
behind that. -/
def Opens (name tag : List Char) : Prop :=
  ∃ spelled c rest, tag = '<' :: (spelled ++ c :: rest) ∧ lower spelled = name ∧
    (c = '>' ∨ isTagBlank c = true)

/-- The text starts with the closing tag of an element, in any letter case. -/
def Closes (name cs : List Char) : Prop :=
  ∃ spelled rest, cs = '<' :: '/' :: (spelled ++ rest) ∧ lower spelled = name

/-- No closing tag of the element is in the text. -/
def Unclosed (name cs : List Char) : Prop := ∀ a b, cs = a ++ b → ¬ Closes name b

/-- Behind the body is a closing tag of the element, and none is earlier. -/
structure FirstClosing (name body closing : List Char) : Prop where
  closes : Closes name closing
  first : ∀ a b, body = a ++ b → b ≠ [] → ¬ Closes name (b ++ closing)

/-- What is skipped, with the rest of the document behind it. -/
inductive Skips : List Char → List Char → Prop
  | tag (tag rest : List Char) (isTag : IsTag tag)
      (unclosed : ∀ name ∈ rawElements, Opens name tag → Unclosed name rest) : Skips tag rest
  | element (name tag body closing rest : List Char) (isTag : IsTag tag)
      (raw : name ∈ rawElements) (opens : Opens name tag)
      (first : FirstClosing name body (closing ++ '>' :: rest)) (open_ : '>' ∉ closing) :
      Skips (tag ++ (body ++ (closing ++ ['>']))) rest
  | openTag (inside : List Char) (open_ : '>' ∉ inside) : Skips ('<' :: inside) []
  | openElement (name tag body closing : List Char) (isTag : IsTag tag)
      (raw : name ∈ rawElements) (opens : Opens name tag) (first : FirstClosing name body closing)
      (open_ : '>' ∉ closing) : Skips (tag ++ (body ++ closing)) []

/-- A piece of a document. -/
inductive Piece where
  | text (cs : List Char)
  | skipped (cs : List Char)
  deriving DecidableEq, Repr

def Piece.chars : Piece → List Char
  | .text cs => cs
  | .skipped cs => cs

/-- The document consists of the pieces: texts, and between each two of them something skipped. -/
inductive Consists : List Char → List Piece → Prop
  | last (text : List Char) (plain : '<' ∉ text) : Consists text [.text text]
  | next (text skipped rest : List Char) (pieces : List Piece) (plain : '<' ∉ text)
      (skips : Skips skipped rest) (later : Consists rest pieces) :
      Consists (text ++ (skipped ++ rest)) (.text text :: .skipped skipped :: pieces)

/-- The spans of the texts among pieces that start at byte `offset`, without the empty ones. -/
def textSpans (offset : Nat) : List Piece → List Span
  | [] => []
  | .text cs :: pieces => run offset cs ++ textSpans (offset + byteSize cs) pieces
  | .skipped cs :: pieces => textSpans (offset + byteSize cs) pieces

/-- The spans of what is skipped among pieces that start at byte `offset`. -/
def skippedSpans (offset : Nat) : List Piece → List Span
  | [] => []
  | .text cs :: pieces => skippedSpans (offset + byteSize cs) pieces
  | .skipped cs :: pieces =>
    ⟨offset, offset + byteSize cs⟩ :: skippedSpans (offset + byteSize cs) pieces

variable {name name' tag body closing inside text cs rest rest' skipped skipped' : List Char}
  {pieces pieces' : List Piece}

theorem startsWithName_iff : startsWithName name cs = true ↔
    ∃ spelled rest, cs = spelled ++ rest ∧ lower spelled = name := by
  unfold startsWithName
  rw [List.isPrefixOf_iff_prefix]
  constructor
  · intro ⟨behind, h⟩
    obtain ⟨spelled, rest, rfl, hs, _⟩ := List.map_eq_append_iff.mp h.symm
    exact ⟨spelled, rest, rfl, hs⟩
  · rintro ⟨spelled, rest, rfl, rfl⟩
    exact ⟨lower rest, by rw [lower, lower, List.map_append]⟩

/-- No letter has a mark as another letter case. -/
theorem startsWithName_cons_iff {mark : Char} (h : mark.isAlpha = false) :
    startsWithName (mark :: name) cs = true ↔
      ∃ cs', cs = mark :: cs' ∧ startsWithName name cs' = true := by
  unfold startsWithName
  cases cs with
  | nil => simp
  | cons c cs =>
    rw [List.map_cons, List.isPrefixOf_cons_cons, Bool.and_eq_true, beq_iff_eq, eq_comm,
      toLower_eq_iff h]
    constructor
    · rintro ⟨rfl, starts⟩
      exact ⟨cs, rfl, starts⟩
    · rintro ⟨cs', he, starts⟩
      cases he
      exact ⟨rfl, starts⟩

theorem opens_iff : opens name cs = true ↔ Opens name cs := by
  rw [opens, Bool.and_eq_true, startsWithName_cons_iff (by decide)]
  constructor
  · rintro ⟨⟨cs', rfl, starts⟩, behind⟩
    obtain ⟨spelled, rest, rfl, rfl⟩ := startsWithName_iff.mp starts
    rw [List.drop_succ_cons, lower, List.length_map, List.drop_left] at behind
    cases rest with
    | nil => cases behind
    | cons c rest => exact ⟨spelled, c, rest, rfl, rfl, by simpa using behind⟩
  · rintro ⟨spelled, c, rest, rfl, rfl, behind⟩
    refine ⟨⟨_, rfl, startsWithName_iff.mpr ⟨spelled, c :: rest, rfl, rfl⟩⟩, ?_⟩
    rw [List.drop_succ_cons, lower, List.length_map, List.drop_left]
    simpa using behind

theorem closes_iff : startsWithName ('<' :: '/' :: name) cs = true ↔ Closes name cs := by
  rw [startsWithName_cons_iff (by decide)]
  simp only [startsWithName_cons_iff (show '/'.isAlpha = false by decide), startsWithName_iff]
  constructor
  · rintro ⟨_, rfl, _, rfl, spelled, rest, rfl, hs⟩
    exact ⟨spelled, rest, rfl, hs⟩
  · rintro ⟨spelled, rest, rfl, hs⟩
    exact ⟨_, rfl, _, rfl, spelled, rest, rfl, hs⟩

theorem fromClosing_self_iff : fromClosing name cs = some cs ↔ Closes name cs :=
  fromClosing_self.trans closes_iff

theorem fromClosing_cons {c : Char} (h : ¬ Closes name (c :: cs)) :
    fromClosing name (c :: cs) = fromClosing name cs := by
  rw [fromClosing, if_neg fun starts => h (closes_iff.mp starts)]

theorem fromClosing_eq_none_iff : fromClosing name cs = none ↔ Unclosed name cs := by
  constructor
  · rintro none a b rfl closes
    have behind := fromClosing_eq_none_of_append none
    rw [fromClosing_self_iff.mpr closes] at behind
    cases behind
  · intro unclosed
    induction cs with
    | nil => rfl
    | cons c cs ih =>
      rw [fromClosing_cons (unclosed [] _ rfl)]
      exact ih fun a b he => unclosed (c :: a) b (by rw [he, List.cons_append])

theorem fromClosing_of_first (h : FirstClosing name body closing) :
    fromClosing name (body ++ closing) = some closing := by
  induction body with
  | nil => exact fromClosing_self_iff.mpr h.closes
  | cons c body ih =>
    have later : ¬ Closes name (c :: (body ++ closing)) := h.first [] _ rfl (by simp)
    rw [List.cons_append, fromClosing_cons later]
    exact ih ⟨h.closes, fun a b he => h.first (c :: a) b (by rw [he, List.cons_append])⟩

theorem exists_of_fromClosing (h : fromClosing name cs = some closing) :
    ∃ body, cs = body ++ closing ∧ FirstClosing name body closing := by
  induction cs with
  | nil => cases h
  | cons c cs ih =>
    by_cases closes : Closes name (c :: cs)
    · rw [fromClosing_self_iff.mpr closes] at h
      cases h
      refine ⟨[], rfl, closes, fun a b he ne => ?_⟩
      exact (ne (List.append_eq_nil_iff.mp he.symm).2).elim
    · rw [fromClosing_cons closes] at h
      obtain ⟨body, rfl, later, first⟩ := ih h
      refine ⟨c :: body, rfl, later, fun a b he ne => ?_⟩
      cases a with
      | nil =>
        rw [← show c :: body = b from he]
        exact closes
      | cons d a => exact first a b (List.cons.inj he).2 ne

theorem afterTagEnd_eq_none_iff : afterTagEnd cs = none ↔ '>' ∉ cs := by
  constructor
  · intro none inside
    obtain ⟨y, rest, rfl, hy⟩ := List.eq_append_cons_of_mem inside
    rw [afterTagEnd_append hy] at none
    cases none
  · intro outside
    cases h : afterTagEnd cs with
    | none => rfl
    | some rest =>
      obtain ⟨y, rfl, _⟩ := exists_of_afterTagEnd h
      simp at outside

/-- No two elements begin alike. -/
theorem eq_of_isPrefix (raw : name ∈ rawElements) (raw' : name' ∈ rawElements)
    (h : name <+: name') : name = name' := by
  have distinct : ∀ a ∈ rawElements, ∀ b ∈ rawElements, a <+: b → a = b := by decide
  exact distinct name raw name' raw' h

theorem Opens.isPrefix (h : Opens name ('<' :: cs)) : name <+: lower cs := by
  obtain ⟨spelled, c, rest, he, rfl, _⟩ := h
  obtain rfl := (List.cons.inj he).2
  exact ⟨lower (c :: rest), (lower_append ..).symm⟩

theorem Opens.eq (h : Opens name tag) (h' : Opens name' tag) (raw : name ∈ rawElements)
    (raw' : name' ∈ rawElements) : name = name' := by
  obtain ⟨spelled, c, rest, rfl, _⟩ := id h
  rcases List.prefix_or_prefix_of_prefix h.isPrefix h'.isPrefix with le | le
  · exact eq_of_isPrefix raw raw' le
  · exact (eq_of_isPrefix raw' raw le).symm

theorem IsTag.afterTagEnd_append (h : IsTag tag) (rest : List Char) :
    afterTagEnd (tag ++ rest) = some rest := by
  obtain ⟨inside, rfl, outside⟩ := h
  have mark : '>' ∉ '<' :: inside := by simp [outside]
  simpa using Html.afterTagEnd_append mark rest

theorem IsTag.opens_append_iff (h : IsTag tag) (raw : name ∈ rawElements) (rest : List Char) :
    opens name (tag ++ rest) = true ↔ Opens name tag := by
  obtain ⟨inside, rfl, _⟩ := h
  have same := opens_append (closing_mark_not_mem raw) ('<' :: inside) rest []
  rw [← opens_iff, ← List.cons_append, ← same, List.append_assoc, List.singleton_append]

theorem IsTag.of_find? (h : IsTag tag)
    (found : rawElements.find? (opens · (tag ++ rest)) = some name) :
    name ∈ rawElements ∧ Opens name tag := by
  have raw := List.mem_of_find?_eq_some found
  have holds := @List.find?_some _ (opens · (tag ++ rest)) _ _ found
  exact ⟨raw, (h.opens_append_iff raw rest).mp holds⟩

theorem IsTag.find?_eq_some (h : IsTag tag) (raw : name ∈ rawElements) (opens' : Opens name tag)
    (rest : List Char) : rawElements.find? (opens · (tag ++ rest)) = some name := by
  cases found : rawElements.find? (opens · (tag ++ rest)) with
  | none =>
    have none := List.find?_eq_none.mp found name raw
    exact (none ((h.opens_append_iff raw rest).mpr opens')).elim
  | some name' =>
    obtain ⟨raw', opens''⟩ := h.of_find? found
    rw [opens''.eq opens' raw' raw]

theorem afterSkipped_tag (h : IsTag tag)
    (unclosed : ∀ name ∈ rawElements, Opens name tag → Unclosed name rest) :
    afterSkipped (tag ++ rest) = some rest := by
  rw [afterSkipped, h.afterTagEnd_append]
  cases found : rawElements.find? (opens · (tag ++ rest)) with
  | none => simp only
  | some name =>
    obtain ⟨raw, opens'⟩ := h.of_find? found
    simp only [fromClosing_eq_none_iff.mpr (unclosed name raw opens')]

theorem afterSkipped_element (h : IsTag tag) (raw : name ∈ rawElements) (opens' : Opens name tag)
    (first : FirstClosing name body closing) :
    afterSkipped (tag ++ (body ++ closing)) = afterTagEnd closing := by
  rw [afterSkipped, h.afterTagEnd_append]
  simp only [h.find?_eq_some raw opens', fromClosing_of_first first]

/-- What follows what is skipped is where the scanner goes on. -/
theorem Skips.afterSkipped (h : Skips skipped rest) :
    (afterSkipped (skipped ++ rest)).getD [] = rest := by
  cases h with
  | tag _ _ isTag unclosed => rw [afterSkipped_tag isTag unclosed, Option.getD_some]
  | element name tag body closing _ isTag raw opens first open_ =>
    have whole : tag ++ (body ++ (closing ++ ['>'])) ++ rest =
        tag ++ (body ++ (closing ++ '>' :: rest)) := by simp
    rw [whole, afterSkipped_element isTag raw opens first, Html.afterTagEnd_append open_,
      Option.getD_some]
  | openTag inside open_ =>
    have open' : '>' ∉ '<' :: inside := by simp [open_]
    rw [List.append_nil, Html.afterSkipped, afterTagEnd_eq_none_iff.mpr open']
    rfl
  | openElement name tag body closing isTag raw opens first open_ =>
    rw [List.append_nil, afterSkipped_element isTag raw opens first,
      afterTagEnd_eq_none_iff.mpr open_]
    rfl

theorem Skips.exists_cons (h : Skips skipped rest) : ∃ cs, skipped = '<' :: cs := by
  have tag_ : ∀ {tag}, IsTag tag → ∀ cs, ∃ cs', tag ++ cs = '<' :: cs' := by
    rintro _ ⟨inside, rfl, _⟩ cs
    exact ⟨_, rfl⟩
  cases h with
  | tag _ _ isTag _ => simpa using tag_ isTag []
  | element _ _ _ _ _ isTag => exact tag_ isTag _
  | openTag inside _ => exact ⟨inside, rfl⟩
  | openElement _ _ _ _ isTag => exact tag_ isTag _

theorem exists_skips (cs : List Char) : ∃ skipped rest, '<' :: cs = skipped ++ rest ∧
    Skips skipped rest := by
  by_cases closed : '>' ∈ cs
  case neg => exact ⟨'<' :: cs, [], by simp, .openTag cs closed⟩
  obtain ⟨inside, rest, rfl, outside⟩ := List.eq_append_cons_of_mem closed
  have isTag : IsTag ('<' :: (inside ++ ['>'])) := ⟨inside, rfl, outside⟩
  have whole : '<' :: (inside ++ '>' :: rest) = '<' :: (inside ++ ['>']) ++ rest := by simp
  rw [whole]
  generalize '<' :: (inside ++ ['>']) = tag at isTag
  by_cases unclosed : ∀ name ∈ rawElements, Opens name tag → Unclosed name rest
  case pos => exact ⟨tag, rest, rfl, .tag tag rest isTag unclosed⟩
  simp only [not_forall] at unclosed
  obtain ⟨name, raw, opens', closes⟩ := unclosed
  rw [← fromClosing_eq_none_iff] at closes
  obtain ⟨closing, found⟩ := Option.ne_none_iff_exists'.mp closes
  obtain ⟨body, rfl, first⟩ := exists_of_fromClosing found
  by_cases closed' : '>' ∈ closing
  case neg =>
    exact ⟨tag ++ (body ++ closing), [], by simp,
      .openElement name tag body closing isTag raw opens' first closed'⟩
  obtain ⟨closing, rest, rfl, outside'⟩ := List.eq_append_cons_of_mem closed'
  exact ⟨tag ++ (body ++ (closing ++ ['>'])), rest, by simp,
    .element name tag body closing rest isTag raw opens' first outside'⟩

theorem Consists.flatMap_chars (h : Consists cs pieces) : pieces.flatMap Piece.chars = cs := by
  induction h with
  | last text _ => simp [Piece.chars]
  | next text skipped rest pieces _ _ _ ih => simp [Piece.chars, ih]

theorem Skips.head? (h : Skips skipped rest) : ∀ c ∈ (skipped ++ rest).head?, c = '<' := by
  obtain ⟨cs, rfl⟩ := h.exists_cons
  simp

theorem exists_consists (cs : List Char) : ∃ pieces, Consists cs pieces := by
  induction hl : cs.length using Nat.strong_induction_on generalizing cs with
  | h l ih =>
    subst hl
    obtain ⟨text, tail, rfl, plain, first, _⟩ := text_cases cs
    cases tail with
    | nil => exact ⟨_, by simpa using Consists.last text plain⟩
    | cons c tail =>
      obtain rfl := first c rfl
      obtain ⟨skipped, rest, hs, skips⟩ := exists_skips tail
      rw [hs] at ih ⊢
      obtain ⟨cs, rfl⟩ := skips.exists_cons
      obtain ⟨pieces, later⟩ := ih rest.length (by simp; omega) rest rfl
      exact ⟨_, .next text _ rest pieces plain skips later⟩

theorem text_unique {text' tail tail' : List Char} (plain : '<' ∉ text) (plain' : '<' ∉ text')
    (first : ∀ c ∈ tail.head?, c = '<') (first' : ∀ c ∈ tail'.head?, c = '<')
    (h : text ++ tail = text' ++ tail') : text = text' ∧ tail = tail' := by
  obtain ⟨take, drop⟩ := takeWhile_text plain first
  obtain ⟨take', drop'⟩ := takeWhile_text plain' first'
  rw [h] at take drop
  exact ⟨take.symm.trans take', drop.symm.trans drop'⟩

theorem Skips.unique (h : Skips skipped rest) (h' : Skips skipped' rest')
    (same : skipped ++ rest = skipped' ++ rest') : skipped = skipped' ∧ rest = rest' := by
  have behind := h.afterSkipped
  rw [same, h'.afterSkipped] at behind
  subst behind
  exact ⟨List.append_cancel_right same, rfl⟩

theorem Consists.unique (h : Consists cs pieces) (h' : Consists cs pieces') : pieces' = pieces := by
  induction h generalizing pieces' with
  | last text plain =>
    generalize hd : text = document at h'
    cases h' with
    | last => rfl
    | next text' skipped rest pieces plain' skips later =>
      rw [← List.append_nil text] at hd
      obtain ⟨_, none⟩ := text_unique plain plain' (by simp) skips.head? hd
      obtain ⟨cs, rfl⟩ := skips.exists_cons
      cases none
  | next text skipped rest pieces plain skips later ih =>
    generalize hd : text ++ (skipped ++ rest) = document at h'
    cases h' with
    | last _ plain' =>
      rw [← List.append_nil document] at hd
      obtain ⟨_, none⟩ := text_unique plain plain' skips.head? (by simp) hd
      obtain ⟨cs, rfl⟩ := skips.exists_cons
      cases none
    | next text' skipped' rest' pieces' plain' skips' later' =>
      obtain ⟨rfl, tails⟩ := text_unique plain plain' skips.head? skips'.head? hd
      obtain ⟨rfl, rfl⟩ := skips.unique skips' tails
      rw [ih later']

theorem runsFrom_nil (offset : Nat) : runsFrom offset [] = [] := by
  rw [runsFrom]
  rfl

theorem Consists.runsFrom_eq (h : Consists cs pieces) (offset : Nat) :
    runsFrom offset cs = textSpans offset pieces := by
  induction h generalizing offset with
  | last text plain =>
    have last : runsFrom offset (text ++ []) = run offset text :=
      runsFrom_last offset plain (by simp) rfl
    simpa [textSpans] using last
  | next text skipped rest pieces plain skips later ih =>
    rw [textSpans, textSpans, ← ih]
    have behind := skips.afterSkipped
    cases hb : Html.afterSkipped (skipped ++ rest) with
    | some rest' =>
      rw [hb, Option.getD_some] at behind
      exact runsFrom_append offset plain skips.head? (hb.trans (congrArg some behind))
    | none =>
      rw [hb, Option.getD_none] at behind
      subst behind
      rw [runsFrom_last offset plain skips.head? hb, runsFrom_nil, List.append_nil]

theorem byteSize_pos (h : cs ≠ []) : 0 < byteSize cs := by
  obtain ⟨c, cs, rfl⟩ := List.exists_cons_of_ne_nil h
  have := Char.utf8Size_pos c
  rw [byteSize]
  omega

theorem mem_run_iff {s : Span} {offset : Nat} :
    s ∈ run offset text ↔ text ≠ [] ∧ s = ⟨offset, offset + byteSize text⟩ := by
  cases text <;> simp [run]

theorem countP_run (offset n : Nat) (text : List Char) : (run offset text).countP (·.holds n) =
    if Span.holds ⟨offset, offset + byteSize text⟩ n then 1 else 0 := by
  cases text with
  | nil =>
    rw [if_neg]
    · rfl
    · rw [Span.holds_iff, byteSize]
      omega
  | cons c text => exact List.countP_singleton ..

/-- A byte is in one of two spans that stand one behind the other if it is in both together. -/
theorem holds_add (offset k l n : Nat) : (if Span.holds ⟨offset, offset + k⟩ n then 1 else 0) +
    (if Span.holds ⟨offset + k, offset + k + l⟩ n then 1 else 0) =
      if Span.holds ⟨offset, offset + (k + l)⟩ n then 1 else 0 := by
  simp only [Span.holds_iff]
  split_ifs <;> omega

theorem countP_spans (pieces : List Piece) (offset n : Nat) :
    (textSpans offset pieces ++ skippedSpans offset pieces).countP (·.holds n) =
      if Span.holds ⟨offset, offset + byteSize (pieces.flatMap Piece.chars)⟩ n then 1 else 0 := by
  induction pieces generalizing offset with
  | nil => exact countP_run offset n []
  | cons piece pieces ih =>
    have later := ih (offset + byteSize piece.chars)
    rw [List.countP_append] at later ⊢
    rw [List.flatMap_cons, byteSize_append, ← holds_add, ← later]
    cases piece with
    | text cs =>
      rw [textSpans, skippedSpans, List.countP_append, countP_run]
      exact Nat.add_assoc ..
    | skipped cs =>
      rw [textSpans, skippedSpans, List.countP_cons, Piece.chars]
      omega

theorem Consists.exists_text (h : Consists cs pieces) (before : List Char) :
    ∀ s ∈ textSpans (byteSize before) pieces, ∃ a text b, before ++ cs = a ++ (text ++ b) ∧
      s = ⟨byteSize a, byteSize a + byteSize text⟩ ∧ text ≠ [] ∧ '<' ∉ text ∧
        byteSize before ≤ byteSize a := by
  induction h generalizing before with
  | last text plain =>
    intro s hs
    rw [textSpans, textSpans, List.append_nil, mem_run_iff] at hs
    exact ⟨before, text, [], by simp, hs.2, hs.1, plain, le_rfl⟩
  | next text skipped rest pieces plain _ _ ih =>
    intro s hs
    rw [textSpans, textSpans, List.mem_append, mem_run_iff] at hs
    rcases hs with ⟨some, rfl⟩ | hs
    · exact ⟨before, text, skipped ++ rest, rfl, rfl, some, plain, le_rfl⟩
    · rw [← byteSize_append, ← byteSize_append] at hs
      obtain ⟨a, text', b, he, hs, some, plain', le⟩ := ih (before ++ text ++ skipped) s hs
      simp only [byteSize_append] at le
      exact ⟨a, text', b, by simpa using he, hs, some, plain', by omega⟩

theorem Consists.pairwise_textSpans (h : Consists cs pieces) (before : List Char) :
    (textSpans (byteSize before) pieces).Pairwise fun a b => a.stop < b.start := by
  induction h generalizing before with
  | last text _ =>
    rw [textSpans, textSpans, List.append_nil]
    unfold run
    split <;> simp
  | next text skipped rest pieces _ skips later ih =>
    rw [textSpans, textSpans, ← byteSize_append, ← byteSize_append]
    refine List.pairwise_append.mpr ⟨?_, ih _, fun a ha b hb => ?_⟩
    · unfold run
      split <;> simp
    · obtain ⟨_, rfl⟩ := mem_run_iff.mp ha
      obtain ⟨_, _, _, _, rfl, _, _, le⟩ := later.exists_text _ b hb
      obtain ⟨cs, rfl⟩ := skips.exists_cons
      have := byteSize_pos (List.cons_ne_nil '<' cs)
      simp only [byteSize_append] at le ⊢
      omega

/-- The texts of a document stand apart, one behind the other. -/
theorem pairwise_prose (cs : List Char) : (prose cs).Pairwise fun a b => a.stop < b.start := by
  obtain ⟨pieces, consists⟩ := exists_consists cs
  rw [prose, consists.runsFrom_eq]
  exact consists.pairwise_textSpans []

/-- An HTML document consists of texts and of what is skipped between them in one way. Its prose is
found without a slice that fails, and are the texts with something in them. These are apart, in order
and without marks, and each byte of the document is in one of them or in one part that is skipped. -/
theorem prose_of_pieces (cs : List Char) :
    prose? cs = some (prose cs) ∧
    ∃ pieces, Consists cs pieces ∧ (∀ others, Consists cs others → others = pieces) ∧
      prose cs = textSpans 0 pieces ∧
      (∀ s ∈ prose cs, s.start < s.stop ∧ s.Within cs ∧ '<' ∉ s.slice cs) ∧
      (prose cs).Pairwise (fun a b => a.stop < b.start) ∧
      ∀ n < byteSize cs, (prose cs ++ skippedSpans 0 pieces).countP (·.holds n) = 1 := by
  obtain ⟨pieces, consists⟩ := exists_consists cs
  have texts : prose cs = textSpans 0 pieces := consists.runsFrom_eq 0
  refine ⟨prose?_eq cs, pieces, consists, fun _ h => consists.unique h, texts, ?_,
    pairwise_prose cs, ?_⟩
  · intro s hs
    rw [texts] at hs
    obtain ⟨a, text, b, he, rfl, some, plain, _⟩ := consists.exists_text [] s hs
    rw [List.nil_append] at he
    subst he
    refine ⟨Nat.lt_add_of_pos_right (byteSize_pos some), ⟨a, text, b, rfl, rfl⟩, ?_⟩
    rwa [Span.slice_append]
  · intro n hn
    rw [texts, countP_spans, consists.flatMap_chars]
    exact if_pos (Span.holds_iff.mpr ⟨Nat.zero_le n, by rwa [Nat.zero_add]⟩)

end Markup.Html

end Considerate
