import Considerate.Text.Word

namespace Considerate.Text

variable {c : Char} {b : Before} {s s' rest rest' cs : List Char} {ss ss' : List (List Char)}

theorem lt_of_isAlpha (h : c.isAlpha = true) : c.toNat < 0x80 := by
  delta Char.isAlpha Char.isUpper Char.isLower at h
  simp only [Bool.or_eq_true, Bool.and_eq_true, decide_eq_true_eq, ge_iff_le,
    UInt32.le_iff_toNat_le] at h
  have hz : 'z'.val.toNat = 122 := rfl
  have hZ : 'Z'.val.toNat = 90 := rfl
  unfold Char.toNat
  omega

theorem class_of_isAlpha (h : c.isAlpha = true) : WordClass.of c = .letter := by
  rw [WordClass.of, if_pos (lt_of_isAlpha h)]
  unfold WordClass.ofAscii
  exact if_pos h

theorem not_isPictograph_of_isAlpha (h : c.isAlpha = true) : isPictograph c = false := by
  have small : ∀ n < 0x80, holds pictographs n = false := by decide +kernel
  exact small _ (lt_of_isAlpha h)

theorem isAlphanumeric_of_isAlpha (h : c.isAlpha = true) : isAlphanumeric c = true := by
  rw [isAlphanumeric, if_pos (lt_of_isAlpha h), Char.isAlphanum, h, Bool.true_or]

/-- A word of at least two Latin letters. -/
structure IsLatin (s : List Char) : Prop where
  letters : ∀ c ∈ s, c.isAlpha = true
  length : 2 ≤ s.length

theorem IsLatin.any_isAlphanumeric (h : IsLatin s) : s.any isAlphanumeric = true := by
  obtain ⟨letters, length⟩ := h
  match s, length with
  | c :: s, _ =>
    rw [List.any_cons, isAlphanumeric_of_isAlpha (letters c (by simp)), Bool.true_or]

namespace Before

theorem push_letter (b : Before) (h : c.isAlpha = true) :
    b.push c = ⟨some .letter, some .letter, b.base, false⟩ := by
  simp [push, class_of_isAlpha h, not_isPictograph_of_isAlpha h, WordClass.isTrailing]

def behindLetters : Before := ⟨some .letter, some .letter, some .letter, false⟩

theorem foldl_push_of_isLatin (b : Before) (h : IsLatin s) :
    s.foldl push b = behindLetters := by
  obtain ⟨letters, length⟩ := h
  match s, length with
  | c :: d :: s, _ =>
    have two : (b.push c).push d = behindLetters := by
      rw [push_letter _ (letters d (by simp)), push_letter _ (letters c (by simp))]
      rfl
    rw [List.foldl_cons, List.foldl_cons, two]
    have rest : ∀ c ∈ s, c.isAlpha = true := fun c hc => letters c (by simp [hc])
    clear letters two
    induction s with
    | nil => rfl
    | cons c s ih =>
      rw [List.foldl_cons, push_letter _ (rest c List.mem_cons_self)]
      exact ih (by simp) fun c hc => rest c (List.mem_cons_of_mem _ hc)

theorem not_isBoundary_letter (last : b.last = some .letter) (base : b.base = some .letter)
    (h : c.isAlpha = true) (rest : List Char) : b.isBoundary (c :: rest) = false := by
  simp [isBoundary, continues, last, base, class_of_isAlpha h, WordClass.isTrailing,
    WordClass.isLetter, WordClass.isLineEnd]

end Before

/-- The rules see the same where they look ahead to either text. -/
structure Alike (rest rest' : List Char) : Prop where
  next : nextClass rest = nextClass rest'
  boundary : ∀ b : Before, b.isBoundary rest = b.isBoundary rest'

namespace Alike

theorem refl (rest : List Char) : Alike rest rest := ⟨rfl, fun _ => rfl⟩

theorem cons (c : Char) (h : Alike rest rest') : Alike (c :: rest) (c :: rest') where
  next := by simp only [nextClass, h.next]
  boundary b := by simp only [Before.isBoundary, Before.continues, h.next]

theorem append (s : List Char) (h : Alike rest rest') : Alike (s ++ rest) (s ++ rest') := by
  induction s with
  | nil => exact h
  | cons c s ih => exact ih.cons c

/-- Which letter comes next makes no difference, nor what follows it. -/
theorem of_isLatin (h : IsLatin s) (h' : IsLatin s') : Alike (s ++ rest) (s' ++ rest') := by
  obtain ⟨letters, length⟩ := h
  obtain ⟨letters', length'⟩ := h'
  match s, s', length, length' with
  | c :: s, c' :: s', _, _ =>
    have hc := letters c (by simp)
    have hc' := letters' c' (by simp)
    constructor
    · simp [nextClass, class_of_isAlpha hc, class_of_isAlpha hc', WordClass.isTrailing]
    · intro b
      simp [Before.isBoundary, Before.continues, class_of_isAlpha hc, class_of_isAlpha hc',
        not_isPictograph_of_isAlpha hc, not_isPictograph_of_isAlpha hc', WordClass.isLineEnd,
        WordClass.isTrailing, WordClass.joinsLetters, WordClass.joinsDigits]

end Alike

/-- The boundaries of a text, of which `b` records what precedes it, are those between the
segments. -/
inductive Cut : Before → List (List Char) → Prop
  | nil (b : Before) : Cut b []
  | apart (b : Before) (c : Char) (ss : List (List Char))
      (boundary : (b.push c).isBoundary ss.flatten = true) (later : Cut (b.push c) ss) :
      Cut b ([c] :: ss)
  | joined (b : Before) (c : Char) (s : List Char) (ss : List (List Char))
      (inside : (b.push c).isBoundary (s ++ ss.flatten) = false)
      (later : Cut (b.push c) (s :: ss)) : Cut b ((c :: s) :: ss)

theorem cut_segmentsAfter (b : Before) (cs : List Char) : Cut b (segmentsAfter b cs) := by
  induction cs generalizing b with
  | nil => exact .nil b
  | cons c cs ih =>
    have later := ih (b.push c)
    have text := flatten_segmentsAfter (b.push c) cs
    unfold segmentsAfter
    split
    · rename_i none
      rw [none] at later
      exact .apart b c [] rfl later
    · rename_i s ss some
      rw [some] at later text
      split
      · rename_i boundary
        exact .apart b c _ (text ▸ boundary) later
      · rename_i inside
        rw [List.flatten_cons] at text
        exact .joined b c s ss (text ▸ Bool.eq_false_iff.mpr inside) later

theorem Cut.segmentsAfter_eq (h : Cut b ss) : segmentsAfter b ss.flatten = ss := by
  induction h with
  | nil => rfl
  | apart b c ss boundary later ih =>
    rw [List.flatten_cons, List.singleton_append, segmentsAfter, ih]
    cases ss with
    | nil => rfl
    | cons s ss => exact if_pos boundary
  | joined b c s ss inside later ih =>
    rw [List.flatten_cons, List.cons_append, segmentsAfter]
    rw [List.flatten_cons] at ih
    rw [ih]
    simp [inside]

/-- Behind its first segment the text is cut as well, and between the two is a boundary. -/
theorem Cut.tail (h : Cut b (s :: ss)) : (s.foldl Before.push b).isBoundary ss.flatten = true ∧
    Cut (s.foldl Before.push b) ss := by
  generalize he : s :: ss = all at h
  induction h generalizing s with
  | nil => cases he
  | apart b c ss boundary later =>
    cases he
    exact ⟨boundary, later⟩
  | joined b c s ss inside later ih =>
    cases he
    exact ih rfl

/-- What follows the first segment may be replaced by what looks alike. -/
theorem Cut.keep (h : Cut b (s :: ss)) (alike : Alike ss.flatten ss'.flatten)
    (later : Cut (s.foldl Before.push b) ss') : Cut b (s :: ss') := by
  generalize he : s :: ss = all at h
  induction h generalizing s with
  | nil => cases he
  | apart b c ss boundary =>
    cases he
    exact .apart b c ss' (alike.boundary _ ▸ boundary) later
  | joined b c s ss inside _ ih =>
    cases he
    exact .joined b c s ss' ((alike.append s).boundary _ ▸ inside) (ih later rfl)

/-- A word of letters is a segment where the text behind it begins with a boundary. -/
theorem Cut.of_isLatin (h : IsLatin s)
    (boundary : Before.behindLetters.isBoundary ss.flatten = true)
    (later : Cut Before.behindLetters ss) (b : Before) : Cut b (s :: ss) := by
  rw [← Before.foldl_push_of_isLatin b h] at boundary later
  have letters := h.letters
  have nonempty : s ≠ [] := by
    rintro rfl
    cases h.length
  clear h
  induction s generalizing b with
  | nil => exact (nonempty rfl).elim
  | cons c s ih =>
    cases s with
    | nil => exact .apart b c ss boundary later
    | cons d s =>
      have hc := b.push_letter (letters c (by simp))
      refine .joined b c (d :: s) ss ?_ (ih _ later boundary ?_ (by simp))
      · exact Before.not_isBoundary_letter (by rw [hc]) (by rw [hc]) (letters d (by simp)) _
      · exact fun c hc => letters c (List.mem_cons_of_mem _ hc)

/-- The segments are words of letters wherever they are replaced by others. -/
theorem Cut.map {f : List Char → List Char} (h : Cut b ss)
    (latin : ∀ s ∈ ss, f s = s ∨ IsLatin s ∧ IsLatin (f s)) :
    Cut b (ss.map f) ∧ Alike ss.flatten (ss.map f).flatten := by
  induction ss generalizing b with
  | nil => exact ⟨.nil b, .refl _⟩
  | cons s ss ih =>
    obtain ⟨boundary, later⟩ := h.tail
    obtain ⟨later', alike⟩ := ih later fun s hs => latin s (List.mem_cons_of_mem _ hs)
    rw [List.map_cons, List.flatten_cons, List.flatten_cons]
    rcases latin s List.mem_cons_self with same | ⟨hs, hf⟩
    · rw [same]
      exact ⟨h.keep alike later', alike.append s⟩
    · rw [Before.foldl_push_of_isLatin b hs] at boundary later'
      exact ⟨.of_isLatin hf (alike.boundary _ ▸ boundary) later' b, .of_isLatin hs hf⟩

/-- Where segments that are words of letters are replaced by such words, the boundaries stay. -/
theorem segments_map {f : List Char → List Char}
    (latin : ∀ s ∈ segments cs, f s = s ∨ IsLatin s ∧ IsLatin (f s)) :
    segments ((segments cs).map f).flatten = (segments cs).map f :=
  ((cut_segmentsAfter {} cs).map latin).1.segmentsAfter_eq

end Considerate.Text
