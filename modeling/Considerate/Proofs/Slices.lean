import Considerate.Proofs.Html
import Considerate.Proofs.Ranges
import Considerate.Proofs.Segments
import Mathlib.Data.List.DropRight

namespace Considerate.Text

variable {a b cs : List Char} {n : Nat}

/-- What precedes a byte and what follows it; none if it is past the end or inside a character. -/
def splitAt? : Nat → List Char → Option (List Char × List Char)
  | 0, cs => some ([], cs)
  | _ + 1, [] => none
  | n + 1, c :: cs =>
    if c.utf8Size ≤ n + 1 then
      (splitAt? (n + 1 - c.utf8Size) cs).map fun (a, b) => (c :: a, b)
    else none

def from? (cs : List Char) (start : Nat) : Option (List Char) := (splitAt? start cs).map Prod.snd

/-- The text between two bytes; none unless these are in order and at ends of characters. -/
def slice? (cs : List Char) (start stop : Nat) : Option (List Char) :=
  if start ≤ stop then
    (from? cs start).bind fun rest => (splitAt? (stop - start) rest).map Prod.fst
  else none

theorem splitAt?_append (a b : List Char) : splitAt? (byteSize a) (a ++ b) = some (a, b) := by
  induction a with
  | nil => cases b <;> rfl
  | cons c a ih =>
    have hc : byteSize (c :: a) = c.utf8Size + byteSize a := rfl
    have pos := Char.utf8Size_pos c
    obtain ⟨n, hn⟩ : ∃ n, byteSize (c :: a) = n + 1 := Nat.exists_eq_add_one.mpr (by omega)
    have rest : n + 1 - c.utf8Size = byteSize a := by omega
    rw [hn, List.cons_append, splitAt?, if_pos (by omega), rest, ih]
    rfl

theorem of_splitAt? (h : splitAt? n cs = some (a, b)) : cs = a ++ b ∧ n = byteSize a := by
  induction cs generalizing n a with
  | nil =>
    cases n with
    | zero =>
      cases h
      exact ⟨rfl, rfl⟩
    | succ n => cases h
  | cons c cs ih =>
    cases n with
    | zero =>
      cases h
      exact ⟨rfl, rfl⟩
    | succ n =>
      rw [splitAt?] at h
      split at h
      · obtain ⟨⟨a', b'⟩, hs, he⟩ := Option.map_eq_some_iff.mp h
        cases he
        obtain ⟨rfl, hn⟩ := ih hs
        refine ⟨rfl, ?_⟩
        rw [byteSize, ← hn]
        omega
      · cases h

@[simp] theorem from?_append (a b : List Char) : from? (a ++ b) (byteSize a) = some b := by
  rw [from?, splitAt?_append]
  rfl

theorem of_from? (h : from? cs n = some b) : ∃ a, cs = a ++ b ∧ n = byteSize a := by
  obtain ⟨⟨a, _⟩, ha, rfl⟩ := Option.map_eq_some_iff.mp h
  exact ⟨a, of_splitAt? ha⟩

@[simp] theorem slice?_append (a b c : List Char) :
    slice? (a ++ (b ++ c)) (byteSize a) (byteSize a + byteSize b) = some b := by
  rw [slice?, if_pos (Nat.le_add_right ..), from?_append, Option.bind_some, Nat.add_sub_cancel_left,
    splitAt?_append]
  rfl

/-- Slicing does not fail if and only if the span is within the text. -/
theorem isSome_slice?_iff (s : Span) : (slice? cs s.start s.stop).isSome ↔ s.Within cs := by
  constructor
  · intro h
    obtain ⟨inside, hi⟩ := Option.isSome_iff_exists.mp h
    rw [slice?] at hi
    split at hi
    · rename_i ordered
      obtain ⟨rest, hr, hi⟩ := Option.bind_eq_some_iff.mp hi
      obtain ⟨⟨_, behind⟩, hn, rfl⟩ := Option.map_eq_some_iff.mp hi
      obtain ⟨before, rfl, start⟩ := of_from? hr
      obtain ⟨rfl, stop⟩ := of_splitAt? hn
      refine ⟨before, _, behind, rfl, ?_⟩
      rw [← start, ← stop, Nat.add_sub_cancel' ordered]
    · cases hi
  · rintro ⟨before, inside, behind, rfl, rfl⟩
    rw [slice?_append]
    rfl

theorem Span.Within.slice?_eq {s : Span} (h : s.Within cs) :
    slice? cs s.start s.stop = some (s.slice cs) := by
  obtain ⟨before, inside, behind, rfl, rfl⟩ := h
  rw [slice?_append, Span.slice_append]

/-- Where a text first has a pattern, in bytes from its start. -/
def find (pat : List Char) : List Char → Option Nat
  | [] => none
  | c :: cs => if pat.isPrefixOf (c :: cs) then some 0 else (find pat cs).map (c.utf8Size + ·)

theorem find_eq_none {c : Char} (h : c ∉ cs) : find [c] cs = none := by
  induction cs with
  | nil => rfl
  | cons d cs ih =>
    rw [List.mem_cons, not_or] at h
    simp [find, List.isPrefixOf, h.1, ih h.2]

theorem find_append {c : Char} (h : c ∉ a) (b : List Char) :
    find [c] (a ++ c :: b) = some (byteSize a) := by
  induction a with
  | nil => simp [find, List.isPrefixOf, byteSize]
  | cons d a ih =>
    rw [List.mem_cons, not_or] at h
    simp [find, List.isPrefixOf, byteSize, h.1, ih h.2]

/-- A copy in lower case, as far as ASCII goes. -/
def lower (cs : List Char) : List Char := cs.map Char.toLower

/-- Only letters have a lower case, which is a letter. -/
theorem toLower_cases (c : Char) :
    c.toLower = c ∨ c.isAlpha = true ∧ c.toLower.isAlpha = true := by
  delta Char.toLower
  split
  · rename_i upper
    right
    have hA : 'A'.val.toNat = 65 := rfl
    have hZ : 'Z'.val.toNat = 90 := rfl
    have ha : 'a'.val.toNat = 97 := rfl
    have hz : 'z'.val.toNat = 122 := rfl
    have hd : ('a'.val - 'A'.val).toNat = 32 := rfl
    delta Char.isAlpha Char.isUpper Char.isLower
    simp only [Bool.or_eq_true, Bool.and_eq_true, decide_eq_true_eq, ge_iff_le,
      UInt32.le_iff_toNat_le, UInt32.toNat_add] at upper ⊢
    omega
  · exact Or.inl rfl

/-- A character that is no letter has no other in another letter case. -/
theorem toLower_eq_iff {c d : Char} (h : d.isAlpha = false) : c.toLower = d ↔ c = d := by
  rcases toLower_cases c with same | ⟨letter, lower⟩
  · rw [same]
  · constructor <;> rintro rfl
    · rw [lower] at h
      cases h
    · rw [letter] at h
      cases h

theorem utf8Size_toLower (c : Char) : c.toLower.utf8Size = c.utf8Size := by
  have one : ∀ {d : Char}, d.isAlpha = true → d.utf8Size = 1 := by
    intro d hd
    have small := lt_of_isAlpha hd
    unfold Char.toNat at small
    rw [Char.utf8Size, if_pos]
    rw [UInt32.le_iff_toNat_le, UInt32.toNat_ofNatLT]
    omega
  rcases toLower_cases c with same | ⟨letter, lower⟩
  · rw [same]
  · rw [one letter, one lower]

@[simp] theorem byteSize_lower (cs : List Char) : byteSize (lower cs) = byteSize cs := by
  induction cs with
  | nil => rfl
  | cons c cs ih =>
    have hc : byteSize (lower (c :: cs)) = c.toLower.utf8Size + byteSize (lower cs) := rfl
    rw [hc, utf8Size_toLower, ih, byteSize]

@[simp] theorem lower_append (a b : List Char) : lower (a ++ b) = lower a ++ lower b :=
  List.map_append

end Considerate.Text

namespace Considerate.Markup.Html

open Text

variable {name before tail rest cs : List Char}

def isOpening (name tag : List Char) : Bool :=
  ('<' :: name).isPrefixOf tag &&
    match tag.drop (name.length + 1) with
    | [] => false
    | c :: _ => c = '>' || isTagBlank c

/-- Where the part ends that is skipped at the tag that starts at a byte; none if it is skipped to
the end. The elements are looked for in a lower-case copy. This fails if a slice does. -/
def skipped? (cs copy : List Char) (start : Nat) : Option (Option Nat) := do
  match find ['>'] (← from? cs start) with
  | none => return none
  | some n =>
    let stop := start + n + 1
    let tag ← slice? copy start stop
    match rawElements.find? (isOpening · tag) with
    | none => return some stop
    | some name =>
      match find ('<' :: '/' :: name) (← from? copy stop) with
      | none => return some stop
      | some m => return (find ['>'] (← from? cs (stop + m))).map (stop + m + · + 1)

theorem lt_of_skipped? {copy : List Char} {start next : Nat}
    (h : skipped? cs copy start = some (some next)) : start < next := by
  unfold skipped? at h
  obtain ⟨tail, -, h⟩ := Option.bind_eq_some_iff.mp h
  split at h
  · cases h
  · obtain ⟨tag, -, h⟩ := Option.bind_eq_some_iff.mp h
    split at h
    · cases h
      omega
    · obtain ⟨body, -, h⟩ := Option.bind_eq_some_iff.mp h
      split at h
      · cases h
        omega
      · obtain ⟨closing, -, h⟩ := Option.bind_eq_some_iff.mp h
        obtain ⟨l, -, rfl⟩ := Option.map_eq_some_iff.mp (Option.some.inj h)
        omega

/-- The run between two bytes; none if it is empty. -/
def between (start stop : Nat) : List Span := if start < stop then [⟨start, stop⟩] else []

/-- The text runs from a byte on, between bytes whose numbers are computed from it. This fails if a
slice does. -/
def runs? (cs copy : List Char) (start : Nat) : Option (List Span) :=
  match _hr : from? cs start with
  | none => none
  | some rest =>
    match _hn : find ['<'] rest with
    | none => some (between start (byteSize cs))
    | some n =>
      match _hs : skipped? cs copy (start + n) with
      | none => none
      | some none => some (between start (start + n))
      | some (some next) => (runs? cs copy next).map (between start (start + n) ++ ·)
termination_by byteSize cs - start
decreasing_by
  have := lt_of_skipped? _hs
  obtain ⟨a, rfl, rfl⟩ := of_from? _hr
  have : 0 < byteSize rest := by
    cases rest with
    | nil => cases _hn
    | cons c rest =>
      have := Char.utf8Size_pos c
      rw [byteSize]
      omega
  rw [byteSize_append]
  omega

/-- A tag is found to open an element in its lower-case copy if it does. -/
theorem isOpening_lower (name tag : List Char) : isOpening name (lower tag) = opens name tag := by
  unfold isOpening opens startsWithName lower
  rw [← List.map_drop]
  cases tag.drop (name.length + 1) with
  | nil => rfl
  | cons c rest =>
    simp (disch := decide) only [List.map_cons, isTagBlank, toLower_eq_iff]

/-- A closing tag is found in a lower-case copy where it is. -/
theorem find_lower (name cs : List Char) :
    find ('<' :: '/' :: name) (lower cs) =
      (fromClosing name cs).map fun closing => byteSize cs - byteSize closing := by
  induction cs with
  | nil => rfl
  | cons c cs ih =>
    have hc : lower (c :: cs) = c.toLower :: lower cs := rfl
    have hs : startsWithName ('<' :: '/' :: name) (c :: cs) =
        ('<' :: '/' :: name).isPrefixOf (c.toLower :: lower cs) := rfl
    rw [hc, find, fromClosing, hs]
    by_cases starts : ('<' :: '/' :: name).isPrefixOf (c.toLower :: lower cs) = true
    · rw [if_pos starts, if_pos starts, Option.map_some, Nat.sub_self]
    · rw [if_neg starts, if_neg starts, ih, Option.map_map]
      refine Option.map_congr fun closing hx => ?_
      obtain ⟨skipped, rfl⟩ := suffix_of_fromClosing hx
      simp only [Function.comp_apply, utf8Size_toLower, byteSize, byteSize_append]
      omega

theorem find_tagEnd (cs : List Char) :
    find ['>'] cs = (afterTagEnd cs).map fun rest => byteSize cs - byteSize rest - 1 := by
  cases h : afterTagEnd cs with
  | none =>
    refine find_eq_none fun hm => ?_
    obtain ⟨y, rest, rfl, hy⟩ := List.eq_append_cons_of_mem hm
    rw [afterTagEnd_append hy] at h
    cases h
  | some rest =>
    obtain ⟨y, rfl, hy⟩ := exists_of_afterTagEnd h
    have hc : byteSize ('>' :: rest) = 1 + byteSize rest := rfl
    rw [find_append hy, Option.map_some, byteSize_append, hc]
    congr 1
    omega

/-- A tag tells which element it opens whatever follows it. -/
theorem exists_tag (h : afterTagEnd cs = some rest) :
    ∃ tag, cs = tag ++ rest ∧ 1 ≤ byteSize tag ∧
      rawElements.find? (isOpening · (lower tag)) = rawElements.find? (opens · cs) := by
  obtain ⟨y, rfl, hy⟩ := exists_of_afterTagEnd h
  refine ⟨y ++ ['>'], by simp, ?_, ?_⟩
  · rw [byteSize_append]
    exact Nat.le_add_left ..
  · refine List.find?_congr fun name hn => ?_
    rw [isOpening_lower]
    exact opens_append (closing_mark_not_mem hn) y [] rest

/-- What is skipped at a tag is found by its bytes, and no slice fails. -/
theorem skipped?_append (before tail : List Char) :
    skipped? (before ++ tail) (lower (before ++ tail)) (byteSize before) =
      some ((afterSkipped tail).map fun rest =>
        byteSize before + (byteSize tail - byteSize rest)) := by
  unfold skipped? afterSkipped
  rw [from?_append]
  simp only [Option.bind_eq_bind, Option.bind_some, Option.pure_def, find_tagEnd]
  cases h : afterTagEnd tail with
  | none => rfl
  | some rest =>
    obtain ⟨tag, rfl, one, raw⟩ := exists_tag h
    have stop : byteSize before + (byteSize (tag ++ rest) - byteSize rest - 1) + 1 =
        byteSize before + byteSize tag := by
      rw [byteSize_append]
      omega
    have sliced : slice? (lower (before ++ (tag ++ rest))) (byteSize before)
        (byteSize before + byteSize tag) = some (lower tag) := by
      have := slice?_append (lower before) (lower tag) (lower rest)
      rwa [byteSize_lower, byteSize_lower, ← lower_append, ← lower_append] at this
    have body : from? (lower (before ++ (tag ++ rest))) (byteSize before + byteSize tag) =
        some (lower rest) := by
      have := from?_append (lower (before ++ tag)) (lower rest)
      rwa [byteSize_lower, byteSize_append, ← lower_append, List.append_assoc] at this
    simp only [Option.map_some, stop, sliced, body, raw, Option.bind_some, find_lower]
    cases rawElements.find? (opens · (tag ++ rest)) with
    | none => simp
    | some name =>
      cases hc : fromClosing name rest with
      | none => simp [hc]
      | some closing =>
        obtain ⟨inside, rfl⟩ := suffix_of_fromClosing hc
        have found : from? (before ++ (tag ++ (inside ++ closing)))
            (byteSize before + byteSize tag +
              (byteSize (inside ++ closing) - byteSize closing)) = some closing := by
          have := from?_append (before ++ (tag ++ inside)) closing
          rw [byteSize_append, Nat.add_sub_cancel]
          simpa [Nat.add_assoc] using this
        simp only [hc, Option.map_some, found, Option.bind_some, Option.map_map]
        congr 1
        refine Option.map_congr fun rest hr => ?_
        obtain ⟨y, rfl, -⟩ := exists_of_afterTagEnd hr
        have hb : byteSize ('>' :: rest) = 1 + byteSize rest := rfl
        simp only [Function.comp_apply, byteSize_append, hb]
        omega

theorem runs?_eq (cs copy : List Char) (start : Nat) :
    runs? cs copy start = (from? cs start).bind fun rest =>
      match find ['<'] rest with
      | none => some (between start (byteSize cs))
      | some n => (skipped? cs copy (start + n)).bind fun next =>
        match next with
        | none => some (between start (start + n))
        | some next => (runs? cs copy next).map (between start (start + n) ++ ·) := by
  rw [runs?]
  split
  · rename_i none
    rw [none]
    rfl
  · rename_i rest hr
    rw [hr, Option.bind_some]
    split
    · rename_i none
      rw [none]
    · rename_i n hn
      simp only [hn]
      split <;> rename_i hs <;> rw [hs] <;> rfl

theorem between_eq (offset : Nat) (text : List Char) :
    between offset (offset + byteSize text) = run offset text := by
  cases text with
  | nil => simp [between, run, byteSize]
  | cons c text =>
    have := Char.utf8Size_pos c
    rw [between, run, if_pos]
    · rfl
    · rw [byteSize]
      omega

/-- The text runs are found by their bytes, and no slice fails. -/
theorem runs?_append (before cs : List Char) :
    runs? (before ++ cs) (lower (before ++ cs)) (byteSize before) =
      some (runsFrom (byteSize before) cs) := by
  induction hl : cs.length using Nat.strong_induction_on generalizing before cs with
  | h l ih =>
    subst hl
    obtain ⟨text, tail, rfl, ht, first, behind⟩ := text_cases cs
    rw [runs?_eq, from?_append, Option.bind_some]
    cases tail with
    | nil =>
      rw [runsFrom_last _ ht first rfl, List.append_nil, find_eq_none ht, byteSize_append]
      exact congrArg some (between_eq ..)
    | cons c tail =>
      obtain rfl := first c rfl
      have skips := skipped?_append (before ++ text) ('<' :: tail)
      rw [List.append_assoc, byteSize_append] at skips
      simp only [find_append ht, skips, Option.bind_some, between_eq]
      rcases behind with last | ⟨rest, some, shorter⟩
      · rw [runsFrom_last _ ht first last, last]
        rfl
      · obtain ⟨skipped, hd⟩ := suffix_of_afterSkipped some
        rw [← hd] at some first shorter ih ⊢
        have later := ih rest.length shorter (before ++ (text ++ skipped)) rest rfl
        have stop : byteSize before + byteSize text +
            (byteSize (skipped ++ rest) - byteSize rest) =
              byteSize (before ++ (text ++ skipped)) := by
          simp only [byteSize_append]
          omega
        simp only [List.append_assoc] at later
        simp only [some, Option.map_some, stop, later, runsFrom_append _ ht first some]
        simp only [byteSize_append, Nat.add_assoc]

/-- The text runs of an HTML document by their bytes. -/
def prose? (cs : List Char) : Option (List Span) := runs? cs (lower cs) 0

theorem prose?_eq (cs : List Char) : prose? cs = some (prose cs) := runs?_append [] cs

end Considerate.Markup.Html

namespace Considerate

open Text Markup

/-- The bytes at which lines start that follow a line feed of a text, which starts at byte `n`. -/
def lineStartsFrom (n : Nat) : List Char → List Nat
  | [] => []
  | c :: cs =>
    if c = '\n' then (n + c.utf8Size) :: lineStartsFrom (n + c.utf8Size) cs
    else lineStartsFrom (n + c.utf8Size) cs

def lineStart (cs : List Char) (n : Nat) : Nat :=
  ((0 :: lineStartsFrom 0 cs).filter (· ≤ n)).getLast?.getD 0

/-- The slices that a check takes of a document, whose prose is in some stretches: these, what
stands between a word and the next one, the texts that match, and the lines up to their ends. -/
structure Sliced (s : Settings) (cs : List Char) (prose : List Span) : Prop where
  stretches : ∀ x ∈ prose, slice? cs x.start x.stop = some (x.slice cs)
  gaps : ∀ x ∈ prose,
    (words x.start (x.slice cs)).IsChain fun v w => slice? cs v.stop w.start = some w.gap
  texts : ∀ m ∈ matchesIn s.rules cs prose, slice? cs m.start m.stop = some m.text
  lines : ∀ m ∈ matchesIn s.rules cs prose, ∀ n, n = m.start ∨ n = m.stop →
    ∃ line, slice? cs (lineStart cs n) n = some line ∧ '\n' ∉ line

variable {s : Settings} {cs : List Char} {prose : List Span}

theorem lineStartsFrom_append (n : Nat) (a b : List Char) :
    lineStartsFrom n (a ++ b) = lineStartsFrom n a ++ lineStartsFrom (n + byteSize a) b := by
  induction a generalizing n with
  | nil => rfl
  | cons c a ih =>
    simp only [List.cons_append, lineStartsFrom, ih, byteSize, Nat.add_assoc]
    split <;> rfl

theorem lt_of_mem_lineStartsFrom {m n : Nat} (h : m ∈ lineStartsFrom n cs) :
    n < m ∧ m ≤ n + byteSize cs := by
  induction cs generalizing n with
  | nil => cases h
  | cons c cs ih =>
    have := Char.utf8Size_pos c
    have later : m ∈ lineStartsFrom (n + c.utf8Size) cs → n < m ∧ m ≤ n + byteSize (c :: cs) := by
      intro hm
      have := ih hm
      rw [byteSize]
      omega
    rw [lineStartsFrom] at h
    split at h
    · rcases List.mem_cons.mp h with rfl | hm
      · rw [byteSize]
        omega
      · exact later hm
    · exact later h

theorem getLast?_lineStarts (a : List Char) :
    (0 :: lineStartsFrom 0 a).getLast? = some (byteSize (a.rdropWhile (· ≠ '\n'))) := by
  induction a using List.reverseRecOn with
  | nil => rfl
  | append_singleton a c ih =>
    rw [lineStartsFrom_append, ← List.cons_append]
    by_cases feed : c = '\n'
    · rw [lineStartsFrom, if_pos feed, lineStartsFrom, List.getLast?_concat]
      simp [feed, byteSize]
    · simp [lineStartsFrom, feed, ih]

theorem exists_lineStart (a b : List Char) : ∃ earlier line, a = earlier ++ line ∧ '\n' ∉ line ∧
    lineStart (a ++ b) (byteSize a) = byteSize earlier := by
  refine ⟨a.rdropWhile (· ≠ '\n'), a.rtakeWhile (· ≠ '\n'),
    List.rdropWhile_append_rtakeWhile.symm, fun feed => ?_, ?_⟩
  · simpa using List.mem_rtakeWhile_imp feed
  have before : (0 :: lineStartsFrom 0 a).filter (· ≤ byteSize a) = 0 :: lineStartsFrom 0 a := by
    rw [List.filter_eq_self]
    intro m hm
    rcases List.mem_cons.mp hm with rfl | hm
    · simp
    · have := lt_of_mem_lineStartsFrom hm
      simp
      omega
  have behind : (lineStartsFrom (0 + byteSize a) b).filter (· ≤ byteSize a) = [] := by
    rw [List.filter_eq_nil_iff]
    intro m hm
    have := lt_of_mem_lineStartsFrom hm
    simp
    omega
  rw [lineStart, lineStartsFrom_append, ← List.cons_append, List.filter_append, before, behind,
    List.append_nil, getLast?_lineStarts]
  rfl

/-- No slice fails where the prose starts and stops between characters. -/
theorem sliced_of_within (within : ∀ x ∈ prose, x.Within cs) : Sliced s cs prose := by
  have ends : ∀ m ∈ matchesIn s.rules cs prose, ∃ before behind,
      cs = before ++ (m.text ++ behind) ∧ m.start = byteSize before ∧
        m.stop = byteSize before + byteSize m.text := by
    intro m hm
    obtain ⟨site, rfl, enabled, matched⟩ := exists_site hm
    exact exists_ends within ((isMatch_iff within).mpr ⟨enabled, matched⟩)
  constructor
  case stretches => exact fun x hx => (within x hx).slice?_eq
  case gaps =>
    intro x hx
    obtain ⟨before, inside, behind, rfl, rfl⟩ := within x hx
    rw [Span.slice_append]
    refine ((laid_words ..).gaps behind).imp ?_
    rintro v w ⟨a, b, hd, hv, hw⟩
    rw [hd, hv, hw, slice?_append]
  case texts =>
    intro m hm
    obtain ⟨before, behind, hd, start, stop⟩ := ends m hm
    rw [start, stop, hd, slice?_append]
  case lines =>
    intro m hm n hn
    obtain ⟨before, behind, hd, start, stop⟩ := ends m hm
    have at_ : ∃ a b, cs = a ++ b ∧ n = byteSize a := by
      rcases hn with rfl | rfl
      · exact ⟨before, _, hd, start⟩
      · exact ⟨before ++ m.text, behind, by simp [hd], by simp [stop]⟩
    obtain ⟨a, b, rfl, rfl⟩ := at_
    obtain ⟨earlier, line, rfl, hn, hs⟩ := exists_lineStart a b
    refine ⟨line, ?_, hn⟩
    rw [hs, List.append_assoc, byteSize_append, slice?_append]

/-- A document is linted, and all slices that are taken of it start and stop between characters. -/
structure LintsWell (u : Url) (d : Document) (s : Settings) : Prop where
  linted : ∃ r, lint u (some d) s = .ok r
  scanned : d.filetype.profile = .html →
    Html.prose? d.text.toList = some (Html.prose d.text.toList)
  sliced : ∃ prose, d.filetype.profile.prose d.text.toList = .ok prose ∧
    Sliced s d.text.toList prose

/-- Plain and HTML documents are linted under all settings that do not contradict themselves. -/
theorem lintsWell (u : Url) {d : Document} (valid : s.conflicting = false)
    (plain : d.filetype.profile = .text ∨ d.filetype.profile = .html) : LintsWell u d s := by
  obtain ⟨prose, read⟩ : ∃ prose, d.filetype.profile.prose d.text.toList = .ok prose := by
    rcases plain with h | h <;> rw [h] <;> exact ⟨_, rfl⟩
  have apart : d.filetype.profile ≠ .markdown ∧ d.filetype.profile ≠ .mdx := by
    rcases plain with h | h <;> rw [h] <;> decide
  constructor
  case linted =>
    simp only [lint, check_eq valid read]
    exact ⟨_, rfl⟩
  case scanned => exact fun _ => Html.prose?_eq _
  case sliced => exact ⟨prose, read, sliced_of_within (Profile.within_prose read apart)⟩

end Considerate
