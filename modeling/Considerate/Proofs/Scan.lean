import Considerate.Match
import Mathlib.Data.List.Forall2

namespace Considerate

open Text

variable {rules : List Rule} {r q : Rule} {w : Word} {ws : List Word}

theorem exists_left_of_mem {α β : Type} {R : α → β → Prop} {as : List α} {bs : List β} {b : β}
    (h : List.Forall₂ R as bs) (hb : b ∈ bs) : ∃ a ∈ as, R a b := by
  induction h with
  | nil => cases hb
  | cons hr _ ih =>
    rcases List.mem_cons.mp hb with rfl | hb
    · exact ⟨_, List.mem_cons_self, hr⟩
    · obtain ⟨a, ha, hr⟩ := ih hb
      exact ⟨a, List.mem_cons_of_mem _ ha, hr⟩

/-- The words go on with a phrase if they spell it and each has only white space before it. -/
theorem continuesWith_iff (ps : List String) (ws : List Word) :
    continuesWith ps ws = true ↔
      List.Forall₂ (fun p w => w.spells p = true) ps (ws.take ps.length) ∧
      ∀ w ∈ ws.take ps.length, w.gap.all isBlank = true := by
  induction ps generalizing ws with
  | nil => simp [continuesWith]
  | cons p ps ih =>
    cases ws with
    | nil => simp [continuesWith]
    | cons w ws =>
      simp only [continuesWith, Bool.and_eq_true, ih, List.length_cons, List.take_succ_cons,
        List.forall₂_cons, List.forall_mem_cons]
      constructor
      · intro ⟨⟨blank, spelled⟩, more, blanks⟩
        exact ⟨⟨spelled, more⟩, blank, blanks⟩
      · intro ⟨⟨spelled, more⟩, blank, blanks⟩
        exact ⟨⟨blank, spelled⟩, more, blanks⟩

/-- A rule matches if the words spell its phrase and each but the first has only white space
before it. -/
theorem Rule.matchesAt_iff (r : Rule) (ws : List Word) :
    r.matchesAt ws = true ↔
      List.Forall₂ (fun p w => w.spells p = true) r.phrase (ws.take r.phrase.length) ∧
      ∀ w ∈ (ws.take r.phrase.length).tail, w.gap.all isBlank = true := by
  unfold matchesAt
  cases ws with
  | nil => cases r.phrase <;> simp
  | cons w ws => cases r.phrase <;> simp [continuesWith_iff, and_assoc]

theorem Rule.length_le_of_matchesAt (h : r.matchesAt ws = true) : r.phrase.length ≤ ws.length := by
  have hl := ((r.matchesAt_iff ws).mp h).1.length_eq
  simp only [List.length_take] at hl
  omega

theorem exists_foldl_longer (best : Rule) (rs : List Rule) :
    ∃ r, rs.foldl longer (some best) = some r ∧ r ∈ best :: rs ∧
      ∀ q ∈ best :: rs, q.phrase.length ≤ r.phrase.length := by
  induction rs generalizing best with
  | nil => exact ⟨best, rfl, by simp, by simp⟩
  | cons a rs ih =>
    simp only [List.foldl_cons, longer]
    split
    · rename_i hlt
      obtain ⟨r, hr, hm, hq⟩ := ih best
      refine ⟨r, hr, ?_, ?_⟩
      · rcases List.mem_cons.mp hm with rfl | hm <;> simp [*]
      · have hb := hq best List.mem_cons_self
        intro q hm
        simp only [List.mem_cons] at hm
        rcases hm with rfl | rfl | hm
        · exact hb
        · omega
        · exact hq q (List.mem_cons_of_mem _ hm)
    · rename_i hle
      obtain ⟨r, hr, hm, hq⟩ := ih a
      refine ⟨r, hr, List.mem_cons_of_mem _ hm, ?_⟩
      have ha := hq a List.mem_cons_self
      intro q hm
      rcases List.mem_cons.mp hm with rfl | hm
      · omega
      · exact hq q hm

theorem longestMatch_eq_none :
    longestMatch rules ws = none ↔ ∀ r ∈ rules, r.matchesAt ws = false := by
  unfold longestMatch
  cases hf : rules.filter (·.matchesAt ws) with
  | nil => simpa [List.filter_eq_nil_iff] using hf
  | cons a rs =>
    obtain ⟨r, hr, _⟩ := exists_foldl_longer a rs
    have ha : a ∈ rules.filter (·.matchesAt ws) := by simp [hf]
    simp only [List.mem_filter] at ha
    simp only [List.foldl_cons, longer, hr, reduceCtorEq, false_iff, not_forall]
    exact ⟨a, ha.1, by simp [ha.2]⟩

/-- The rule of the longest match matches, and no rule that matches has a longer phrase. -/
theorem of_longestMatch (h : longestMatch rules ws = some r) :
    r ∈ rules ∧ r.matchesAt ws = true ∧
      ∀ q ∈ rules, q.matchesAt ws = true → q.phrase.length ≤ r.phrase.length := by
  unfold longestMatch at h
  cases hf : rules.filter (·.matchesAt ws) with
  | nil =>
    rw [hf] at h
    cases h
  | cons a rs =>
    obtain ⟨best, hb, hm, hq⟩ := exists_foldl_longer a rs
    rw [hf, List.foldl_cons, longer, hb] at h
    cases h
    rw [← hf] at hm hq
    obtain ⟨hr, matched⟩ := List.mem_filter.mp hm
    exact ⟨hr, matched, fun q hmem hmat => hq q (List.mem_filter.mpr ⟨hmem, hmat⟩)⟩

section

variable {f : Word → Word} (spells : ∀ w p, (f w).spells p = w.spells p)
  (blank : ∀ w : Word, (f w).gap.all isBlank = w.gap.all isBlank)
include spells blank

theorem continuesWith_map (ps : List String) (ws : List Word) :
    continuesWith ps (ws.map f) = continuesWith ps ws := by
  induction ps generalizing ws with
  | nil => simp [continuesWith]
  | cons p ps ih =>
    cases ws with
    | nil => rfl
    | cons w ws => simp only [List.map_cons, continuesWith, spells, blank, ih]

theorem Rule.matchesAt_map (r : Rule) (ws : List Word) :
    r.matchesAt (ws.map f) = r.matchesAt ws := by
  cases ws with
  | nil => rfl
  | cons w ws => simp only [List.map_cons, matchesAt, spells, continuesWith_map spells blank]

def Match.map (f : Word → Word) (m : Match) : Match := ⟨m.rule, m.words.map f⟩

/-- In words that are changed, though not in what they spell, the same is found. -/
theorem scan_map (rules : List Rule) (ws : List Word) :
    scan rules (ws.map f) = (scan rules ws).map (Match.map f) := by
  have longest : ∀ ws : List Word, longestMatch rules (ws.map f) = longestMatch rules ws := by
    intro ws
    simp only [longestMatch, Rule.matchesAt_map spells blank]
  induction ws using scan.induct rules with
  | case1 => simp [scan]
  | case2 w ws none ih =>
    have none' := longest (w :: ws)
    rw [none, List.map_cons] at none'
    rw [List.map_cons, scan, scan, none, none', ih]
  | case3 w ws r some ih =>
    have some' := longest (w :: ws)
    rw [some, List.map_cons] at some'
    rw [List.map_cons, scan, scan, some, some']
    simp only [List.map_cons, ← ih, List.map_drop, Match.map, List.map_take]

end

/-- Where the phrase of a rule may stand: the number of a stretch of prose, and of a word in it. -/
structure Site where
  stretch : Nat
  first : Nat
  rule : Rule

namespace Site

/-- The number of the word behind the phrase. -/
def behind (m : Site) : Nat := m.first + m.rule.phrase.length

def matched (m : Site) (ws : List Word) : Match :=
  ⟨m.rule, (ws.drop m.first).take m.rule.phrase.length⟩

/-- The two have a word in common. -/
def Shares (a b : Site) : Prop :=
  a.stretch = b.stretch ∧ a.first < b.behind ∧ b.first < a.behind

end Site

/-- The scan of the words of stretch `k` takes the matches at the sites from word `i` on. -/
inductive Takes (rules : List Rule) (k : Nat) (ws : List Word) : Nat → List Site → Prop
  | stop (i : Nat) (none : ws.length ≤ i) : Takes rules k ws i []
  | skip (i : Nat) (found : List Site) (none : longestMatch rules (ws.drop i) = none)
      (rest : Takes rules k ws (i + 1) found) : Takes rules k ws i found
  | take (i : Nat) (r : Rule) (found : List Site) (some : longestMatch rules (ws.drop i) = some r)
      (rest : Takes rules k ws (i + r.phrase.length) found) :
      Takes rules k ws i (⟨k, i, r⟩ :: found)

section

variable (proper : ∀ r ∈ rules, r.phrase ≠ [])
include proper

theorem exists_takes (k : Nat) (ws : List Word) (i : Nat) :
    ∃ found, Takes rules k ws i found ∧
      scan rules (ws.drop i) = found.map (Site.matched · ws) := by
  by_cases hi : ws.length ≤ i
  · refine ⟨[], .stop i hi, ?_⟩
    rw [List.drop_eq_nil_of_le hi, scan]
    rfl
  · have hd := List.drop_eq_getElem_cons (Nat.lt_of_not_le hi)
    cases hl : longestMatch rules (ws.drop i) with
    | none =>
      obtain ⟨found, rest, hf⟩ := exists_takes k ws (i + 1)
      refine ⟨found, .skip i found hl rest, ?_⟩
      rw [hd] at hl ⊢
      rw [scan, hl]
      exact hf
    | some r =>
      have hr := List.length_pos_iff.mpr (proper r (of_longestMatch hl).1)
      obtain ⟨found, rest, hf⟩ := exists_takes k ws (i + r.phrase.length)
      refine ⟨⟨k, i, r⟩ :: found, .take i r found hl rest, ?_⟩
      have hdrop : (ws.drop (i + 1)).drop (r.phrase.length - 1) =
          ws.drop (i + r.phrase.length) := by
        rw [List.drop_drop]
        congr 1
        omega
      rw [List.map_cons, Site.matched, ← hf]
      rw [hd] at hl ⊢
      rw [scan, hl]
      simp only [hdrop]
termination_by ws.length - i
decreasing_by all_goals omega

end

variable {k i : Nat} {found : List Site}

theorem Takes.sound (h : Takes rules k ws i found) :
    ∀ m ∈ found, i ≤ m.first ∧ m.stretch = k ∧
      longestMatch rules (ws.drop m.first) = some m.rule := by
  induction h with
  | stop => simp
  | skip i found none rest ih =>
    intro m hm
    obtain ⟨hi, hk, hl⟩ := ih m hm
    exact ⟨by omega, hk, hl⟩
  | take i r found some rest ih =>
    intro m hm
    rcases List.mem_cons.mp hm with rfl | hm
    · exact ⟨Nat.le_refl _, rfl, some⟩
    · obtain ⟨hi, hk, hl⟩ := ih m hm
      exact ⟨by omega, hk, hl⟩

/-- A scan goes on behind each match that it takes. -/
theorem Takes.ordered (h : Takes rules k ws i found) :
    found.Pairwise fun a b => a.behind ≤ b.first := by
  induction h with
  | stop => exact .nil
  | skip i found none rest ih => exact ih
  | take i r found some rest ih =>
    exact List.pairwise_cons.mpr ⟨fun m hm => (rest.sound m hm).1, ih⟩

/-- A match is taken, or one is that covers its first word and starts earlier or is no shorter. -/
theorem Takes.complete (h : Takes rules k ws i found) {j : Nat} (hj : i ≤ j) (hr : r ∈ rules)
    (nonempty : r.phrase ≠ []) (matched : r.matchesAt (ws.drop j) = true) :
    ∃ m ∈ found, m.first ≤ j ∧ j < m.behind ∧
      (m.first = j → r.phrase.length ≤ m.rule.phrase.length) := by
  induction h with
  | stop i none =>
    have hl := Rule.length_le_of_matchesAt matched
    have hp := List.length_pos_iff.mpr nonempty
    simp only [List.length_drop] at hl
    omega
  | skip i found none rest ih =>
    have hne : i ≠ j := by
      rintro rfl
      rw [longestMatch_eq_none.mp none r hr] at matched
      cases matched
    exact ih (by omega)
  | take i r' found some rest ih =>
    -- The match starts at a word of the one that is taken here, or the scan comes to it later.
    by_cases hlt : j < i + r'.phrase.length
    · refine ⟨⟨k, i, r'⟩, List.mem_cons_self, hj, hlt, ?_⟩
      rintro rfl
      exact (of_longestMatch some).2.2 r hr matched
    · obtain ⟨m, hm, hmj⟩ := ih (by omega)
      exact ⟨m, List.mem_cons_of_mem _ hm, hmj⟩

end Considerate
