import Considerate.Reason
import Considerate.Rule
import Mathlib.Data.List.Infix

namespace Considerate

variable {p a b : List Char} {c : Char}

/-- A pattern without `c` does not reach over a `c`. -/
theorem prefix_append_cons_iff (hc : c ∉ p) : p <+: a ++ c :: b ↔ p <+: a := by
  induction a generalizing p with
  | nil =>
    cases p with
    | nil => simp
    | cons x p =>
      have hx : x ≠ c := fun h => hc (by simp [h])
      simp [List.cons_prefix_cons, hx]
  | cons d a ih =>
    cases p with
    | nil => simp
    | cons x p =>
      have hp : c ∉ p := fun h => hc (List.mem_cons_of_mem _ h)
      simp [List.cons_prefix_cons, ih hp]

theorem not_infix_append_cons (hc : c ∉ p) (ha : ¬ p <:+: a) (hb : ¬ p <:+: b) :
    ¬ p <:+: a ++ c :: b := by
  induction a with
  | nil =>
    intro h
    rcases List.infix_cons_iff.mp h with h | h
    · exact ha ((prefix_append_cons_iff (a := []) hc).mp h).isInfix
    · exact hb h
  | cons d a ih =>
    intro h
    rcases List.infix_cons_iff.mp h with h | h
    · exact ha ((prefix_append_cons_iff (a := d :: a) hc).mp h).isInfix
    · exact ih (fun h => ha (List.infix_cons_iff.mpr (Or.inr h))) h

theorem cutAt_of_absent (h : ¬ p <:+: a) : cutAt p a = (a, none) := by
  have hp : p ≠ [] := by
    rintro rfl
    exact h List.nil_infix
  induction a with
  | nil => simp [cutAt, hp]
  | cons d a ih =>
    rw [List.infix_cons_iff, not_or] at h
    simp [cutAt, h.1, ih h.2]

theorem cutAt_append_cons (hc : c ∉ p) (h : ¬ p <:+: a) :
    cutAt p (a ++ c :: b) = (a ++ c :: (cutAt p b).1, (cutAt p b).2) := by
  have hp : p ≠ [] := by
    rintro rfl
    exact h List.nil_infix
  induction a with
  | nil =>
    have hn : ¬ p <+: c :: b :=
      fun hpre => hp (List.prefix_nil.mp ((prefix_append_cons_iff (a := []) hc).mp hpre))
    simp [cutAt, hn]
  | cons d a ih =>
    rw [List.infix_cons_iff, not_or] at h
    have hn : ¬ p <+: d :: (a ++ c :: b) := by
      rw [← List.cons_append, prefix_append_cons_iff hc]
      exact h.1
    simp [cutAt, hn, ih h.2]

/-- A pattern is cut at where its first character has not come before. -/
theorem cutAt_append (h : c ∉ a) : cutAt (c :: p) (a ++ c :: (p ++ b)) = (a, some b) := by
  induction a with
  | nil => simp [cutAt]
  | cons d a ih =>
    have hd : c ≠ d := fun he => h (by simp [he])
    have ih := ih fun hm => h (List.mem_cons_of_mem _ hm)
    simp [cutAt, hd, ih]

theorem openBacktick_append (h : '`' ∉ a) (done : List Char) :
    openBacktick done (a ++ '`' :: b) = (done.reverse ++ a) :: backticked b := by
  induction a generalizing done with
  | nil => simp [openBacktick]
  | cons d a ih =>
    have hd : d ≠ '`' := fun he => h (by simp [he])
    have ih := ih (fun hm => h (List.mem_cons_of_mem _ hm)) (d :: done)
    simp [openBacktick, hd, ih]

theorem backticked_append (h : '`' ∉ a) : backticked (a ++ b) = backticked b := by
  induction a with
  | nil => rfl
  | cons d a ih =>
    have hd : d ≠ '`' := fun he => h (by simp [he])
    have ih := ih fun hm => h (List.mem_cons_of_mem _ hm)
    simp [backticked, hd, ih]

theorem backticked_cons (h : '`' ∉ a) :
    backticked ('`' :: (a ++ '`' :: b)) = a :: backticked b := by
  rw [backticked, if_pos rfl, openBacktick_append h]
  rfl

def quoted (ss : List (List Char)) : List Char :=
  [',', ' '].intercalate (ss.map fun s => '`' :: (s ++ ['`']))

theorem quoted_cons_cons (s t : List Char) (ss : List (List Char)) :
    quoted (s :: t :: ss) = '`' :: (s ++ '`' :: ([',', ' '] ++ quoted (t :: ss))) := by
  simp [quoted, List.intercalate]

theorem exists_quoted_cons (s : List Char) (ss : List (List Char)) :
    ∃ rest, quoted (s :: ss) = '`' :: rest := by
  cases ss with
  | nil => exact ⟨s ++ ['`'], by simp [quoted, List.intercalate]⟩
  | cons t ss => exact ⟨_, quoted_cons_cons s t ss⟩

theorem not_mem_quoted {ss : List (List Char)} (hc : c ∉ ['`', ',', ' ']) (h : ∀ s ∈ ss, c ∉ s) :
    c ∉ quoted ss := by
  induction ss with
  | nil => simp [quoted, List.intercalate]
  | cons s ss ih =>
    have hs := h s List.mem_cons_self
    have ih := ih fun t ht => h t (List.mem_cons_of_mem _ ht)
    simp only [List.mem_cons, List.not_mem_nil, or_false, not_or] at hc
    cases ss with
    | nil => simp [quoted, List.intercalate, hs, hc]
    | cons t ss => simp [quoted_cons_cons, hs, hc, ih]

theorem backticked_quoted {ss : List (List Char)} (h : ∀ s ∈ ss, '`' ∉ s) :
    backticked (quoted ss ++ b) = ss ++ backticked b := by
  induction ss with
  | nil => rfl
  | cons s ss ih =>
    have hs := h s List.mem_cons_self
    have ih := ih fun t ht => h t (List.mem_cons_of_mem _ ht)
    cases ss with
    | nil =>
      have hq : quoted [s] ++ b = '`' :: (s ++ '`' :: b) := by simp [quoted, List.intercalate]
      rw [hq, backticked_cons hs]
      rfl
    | cons t ss =>
      have hq : quoted (s :: t :: ss) ++ b =
          '`' :: (s ++ '`' :: ([',', ' '] ++ (quoted (t :: ss) ++ b))) := by
        simp [quoted_cons_cons]
      rw [hq, backticked_cons hs, backticked_append (by decide), ih]
      rfl

theorem suggestionMark_eq : suggestionMark = [',', ' ', 'u', 's', 'e'] := by
  decide

theorem not_infix_quoted {ss : List (List Char)} (h : ∀ s ∈ ss, ¬ suggestionMark <:+: s)
    (hb : ¬ suggestionMark <:+: b) : ¬ suggestionMark <:+: quoted ss ++ b := by
  have hc : '`' ∉ suggestionMark := by decide
  have hn : ¬ suggestionMark <:+: [] := by decide
  induction ss with
  | nil => exact hb
  | cons s ss ih =>
    have hs := h s List.mem_cons_self
    have ih := ih fun t ht => h t (List.mem_cons_of_mem _ ht)
    cases ss with
    | nil =>
      have hq : quoted [s] ++ b = [] ++ '`' :: (s ++ '`' :: b) := by
        simp [quoted, List.intercalate]
      rw [hq]
      exact not_infix_append_cons hc hn (not_infix_append_cons hc hs hb)
    | cons t ss =>
      obtain ⟨rest, hrest⟩ := exists_quoted_cons t ss
      have hq : quoted (s :: t :: ss) ++ b =
          [] ++ '`' :: (s ++ '`' :: ([',', ' '] ++ '`' :: (rest ++ b))) := by
        simp [quoted_cons_cons, hrest]
      have hr : ¬ suggestionMark <:+: rest ++ b := by
        rw [hrest, List.cons_append, List.infix_cons_iff, not_or] at ih
        exact ih.2
      rw [hq]
      apply not_infix_append_cons hc hn
      apply not_infix_append_cons hc hs
      exact not_infix_append_cons hc (by decide) hr

def behindMark (suggestions : List String) : List Char :=
  ' ' :: (quoted (suggestions.map String.toList) ++ " instead".toList)

variable {suggestions : List String} {actual : String}

theorem not_infix_behindMark (h : ∀ s ∈ suggestions, ¬ suggestionMark <:+: s.toList) :
    ¬ suggestionMark <:+: behindMark suggestions := by
  unfold behindMark
  rw [List.infix_cons_iff, not_or]
  constructor
  · rw [suggestionMark_eq, List.cons_prefix_cons]
    simp
  · apply not_infix_quoted
    · intro s hs
      obtain ⟨v, hv, rfl⟩ := List.mem_map.mp hs
      exact h v hv
    · decide

theorem backticked_behindMark (h : ∀ s ∈ suggestions, '`' ∉ s.toList) :
    backticked (behindMark suggestions) = suggestions.map String.toList := by
  have hb : backticked " instead".toList = [] := by decide
  have hs : ∀ s ∈ suggestions.map String.toList, '`' ∉ s := by
    intro s hs
    obtain ⟨v, hv, rfl⟩ := List.mem_map.mp hs
    exact h v hv
  unfold behindMark
  rw [← List.singleton_append, backticked_append (by decide), backticked_quoted hs, hb,
    List.append_nil]

/-- A reason with suggestions is cut at the mark before them, wherever the matched text has
backticks. -/
theorem cutAt_suggesting (unmarked : ¬ suggestionMark <:+: actual.toList) :
    cutAt suggestionMark ("`" ++ actual ++ "` may be insensitive, use " ++
        ", ".intercalate (suggestions.map fun w => "`" ++ w ++ "`") ++ " instead").toList =
      (("`" ++ actual ++ "` may be insensitive").toList, some (behindMark suggestions)) := by
  have hc : '`' ∉ suggestionMark := by decide
  have hq : (", ".intercalate (suggestions.map fun w => "`" ++ w ++ "`")).toList =
      quoted (suggestions.map String.toList) := by
    simp [quoted, Function.comp_def]
  have hlist : ("`" ++ actual ++ "` may be insensitive, use " ++
      ", ".intercalate (suggestions.map fun w => "`" ++ w ++ "`") ++ " instead").toList =
      [] ++ '`' :: (actual.toList ++ '`' :: (" may be insensitive".toList ++
        ',' :: ([' ', 'u', 's', 'e'] ++ behindMark suggestions))) := by
    simp [behindMark, hq]
  have hcut : cutAt suggestionMark (" may be insensitive".toList ++
      ',' :: ([' ', 'u', 's', 'e'] ++ behindMark suggestions)) =
      (" may be insensitive".toList, some (behindMark suggestions)) :=
    cutAt_append (by decide)
  rw [hlist, cutAt_append_cons hc (by decide), cutAt_append_cons hc unmarked, hcut]
  simp

/-- A reason with suggestions is taken apart into what stands before the mark and them. -/
theorem ofText_suggesting
    (plain : ∀ s ∈ suggestions, '`' ∉ s.toList ∧ ¬ suggestionMark <:+: s.toList)
    (unmarked : ¬ suggestionMark <:+: actual.toList) :
    Reason.ofText ("`" ++ actual ++ "` may be insensitive, use " ++
        ", ".intercalate (suggestions.map fun w => "`" ++ w ++ "`") ++ " instead") =
      ⟨"`" ++ actual ++ "` may be insensitive", suggestions⟩ := by
  unfold Reason.ofText
  rw [cutAt_suggesting unmarked]
  simp only [cutAt_of_absent (not_infix_behindMark fun s hs => (plain s hs).2),
    backticked_behindMark fun s hs => (plain s hs).1]
  simp [Function.comp_def, String.append_assoc]

theorem ofText_of_unmarked {text : String} (h : ¬ suggestionMark <:+: text.toList) :
    Reason.ofText text = ⟨text, []⟩ := by
  unfold Reason.ofText
  simp [cutAt_of_absent h]

theorem not_infix_around (unmarked : ¬ suggestionMark <:+: actual.toList)
    (ha : ¬ suggestionMark <:+: a) (hb : ¬ suggestionMark <:+: b) :
    ¬ suggestionMark <:+: a ++ '`' :: (actual.toList ++ '`' :: b) := by
  have hc : '`' ∉ suggestionMark := by decide
  exact not_infix_append_cons hc ha (not_infix_append_cons hc unmarked hb)

theorem not_infix_suggesting (unmarked : ¬ suggestionMark <:+: actual.toList) :
    ¬ suggestionMark <:+: ("`" ++ actual ++ "` may be insensitive").toList := by
  have h : ("`" ++ actual ++ "` may be insensitive").toList =
      [] ++ '`' :: (actual.toList ++ '`' :: " may be insensitive".toList) := by simp
  rw [h]
  exact not_infix_around unmarked (by decide) (by decide)

theorem not_infix_profane (id : String) (phrase : List String) (sureness : Sureness)
    (unmarked : ¬ suggestionMark <:+: actual.toList) :
    ¬ suggestionMark <:+: (Rule.reason ⟨id, phrase, .profanity sureness⟩ actual).toList := by
  have careful : ("Be careful with `" ++ actual ++ "`, it’s profane in some cases").toList =
      "Be careful with ".toList ++ '`' :: (actual.toList ++
        '`' :: ", it’s profane in some cases".toList) := by simp
  have never : ("Don’t use `" ++ actual ++ "`, it’s profane").toList =
      "Don’t use ".toList ++ '`' :: (actual.toList ++ '`' :: ", it’s profane".toList) := by simp
  cases sureness with
  | unlikely | maybe =>
    simp only [Rule.reason]
    rw [careful]
    exact not_infix_around unmarked (by decide) (by decide)
  | likely =>
    simp only [Rule.reason]
    rw [never]
    exact not_infix_around unmarked (by decide) (by decide)

end Considerate
