import Considerate.Proofs.Messages
import Considerate.Proofs.Rules

namespace Considerate

open Text Markup

variable {rules : List Rule} {r q : Rule} {p : String} {w : Word} {ws : List Word}

theorem eq_of_spells {p' : String} (h : w.spells p = true) (h' : w.spells p' = true) : p = p' := by
  simp only [Word.spells, beq_iff_eq] at h h'
  exact String.toList_inj.mp (h.symm.trans h')

/-- A rule that matches has a phrase that starts with the first word. -/
theorem exists_head_of_matchesAt (hr : r ∈ Rule.all) (h : r.matchesAt (w :: ws) = true) :
    ∃ p, r.phrase.head? = some p ∧ w.spells p = true := by
  cases hp : r.phrase with
  | nil => exact (Rule.phrase_ne_nil hr hp).elim
  | cons p ps =>
    simp only [Rule.matchesAt, hp, Bool.and_eq_true] at h
    exact ⟨p, rfl, h.1⟩

theorem eq_of_matchesAt (hr : r ∈ Rule.all) (hq : q ∈ Rule.all) (h : r.matchesAt ws = true)
    (h' : q.matchesAt ws = true) : r = q := by
  cases ws with
  | nil =>
    have hl := Rule.length_le_of_matchesAt h
    exact (Rule.phrase_ne_nil hr (List.length_eq_zero_iff.mp (Nat.le_zero.mp hl))).elim
  | cons w ws =>
    obtain ⟨p, hp, spelled⟩ := exists_head_of_matchesAt hr h
    obtain ⟨p', hp', spelled'⟩ := exists_head_of_matchesAt hq h'
    apply Rule.eq_of_head hr hq
    rw [hp, hp', eq_of_spells spelled spelled']

theorem longestMatch_filter (keep : Rule → Bool) (ws : List Word) :
    longestMatch (Rule.all.filter keep) ws = (longestMatch Rule.all ws).filter keep := by
  have matched : ∀ q, longestMatch (Rule.all.filter keep) ws = some q →
      q ∈ Rule.all ∧ keep q = true ∧ q.matchesAt ws = true := by
    intro q hq
    obtain ⟨hm, hmatch, _⟩ := of_longestMatch hq
    obtain ⟨hall, hk⟩ := List.mem_filter.mp hm
    exact ⟨hall, hk, hmatch⟩
  cases hl : longestMatch Rule.all ws with
  | none =>
    rw [Option.filter_none, longestMatch_eq_none]
    intro r hr
    exact longestMatch_eq_none.mp hl r (List.mem_filter.mp hr).1
  | some r =>
    obtain ⟨hr, hmatch, _⟩ := of_longestMatch hl
    cases hk : keep r with
    | true =>
      rw [Option.filter_some_pos hk]
      cases hf : longestMatch (Rule.all.filter keep) ws with
      | none =>
        have hn := longestMatch_eq_none.mp hf r (List.mem_filter.mpr ⟨hr, hk⟩)
        rw [hmatch] at hn
        cases hn
      | some q =>
        obtain ⟨hq, _, hmatch'⟩ := matched q hf
        rw [eq_of_matchesAt hr hq hmatch hmatch']
    | false =>
      rw [Option.filter_some_neg (by simp [hk])]
      cases hf : longestMatch (Rule.all.filter keep) ws with
      | none => rfl
      | some q =>
        obtain ⟨hq, hk', hmatch'⟩ := matched q hf
        rw [← eq_of_matchesAt hr hq hmatch hmatch', hk] at hk'
        cases hk'

theorem scan_append (sub : ∀ r ∈ rules, r ∈ Rule.all) (skipped rest : List Word)
    (apart : ∀ w ∈ skipped, ∀ r ∈ rules, ∀ p, r.phrase.head? = some p → w.spells p = false) :
    scan rules (skipped ++ rest) = scan rules rest := by
  induction skipped with
  | nil => rfl
  | cons w skipped ih =>
    have hn : longestMatch rules (w :: (skipped ++ rest)) = none := by
      rw [longestMatch_eq_none]
      intro r hr
      by_contra h
      obtain ⟨p, hp, spelled⟩ := exists_head_of_matchesAt (sub r hr) (by simpa using h)
      rw [apart w List.mem_cons_self r hr p hp] at spelled
      cases spelled
    rw [List.cons_append, scan, hn]
    exact ih fun w hw => apart w (List.mem_cons_of_mem _ hw)

/-- With the words behind the first one of a match no phrase starts. -/
theorem not_spells_of_matchesAt (hr : r ∈ Rule.all) (h : r.matchesAt (w :: ws) = true) :
    ∀ v ∈ ws.take (r.phrase.length - 1), ∀ q ∈ Rule.all, ∀ p, q.phrase.head? = some p →
      v.spells p = false := by
  intro v hv q hq p hp
  have spelled := ((r.matchesAt_iff (w :: ws)).mp h).1
  cases hph : r.phrase with
  | nil => exact (Rule.phrase_ne_nil hr hph).elim
  | cons p₀ ps =>
    rw [hph] at spelled hv
    obtain ⟨p', hp', hvp⟩ := exists_left_of_mem (List.forall₂_cons.mp spelled).2 hv
    by_contra hs
    have he := eq_of_spells hvp (by simpa using hs)
    subst he
    have htail : p' ∈ r.phrase.tail := by rwa [hph]
    exact Rule.head_ne_of_mem_tail hr htail hq hp

/-- A scan with some of the rules finds what a scan with all of them finds for these. -/
theorem scan_filter (keep : Rule → Bool) (ws : List Word) :
    scan (Rule.all.filter keep) ws = (scan Rule.all ws).filter (keep ·.rule) := by
  induction ws using scan.induct Rule.all with
  | case1 => simp [scan]
  | case2 w ws hl ih =>
    rw [scan, scan, longestMatch_filter, hl]
    exact ih
  | case3 w ws r hl ih =>
    rw [scan, scan, longestMatch_filter, hl]
    cases hk : keep r with
    | true =>
      rw [Option.filter_some_pos hk]
      simp only [List.filter_cons, hk, if_true, ih]
    | false =>
      rw [Option.filter_some_neg (by simp [hk])]
      simp only [List.filter_cons, hk, Bool.false_eq_true, if_false]
      -- The scan with fewer rules comes to the other words of the match; they start no phrase.
      obtain ⟨hr, hmatch, _⟩ := of_longestMatch hl
      have apart := not_spells_of_matchesAt hr hmatch
      have sub : ∀ q ∈ Rule.all.filter keep, q ∈ Rule.all := fun q hq => (List.mem_filter.mp hq).1
      have passed := scan_append sub (ws.take (r.phrase.length - 1))
        (ws.drop (r.phrase.length - 1)) fun v hv q hq => apart v hv q (sub q hq)
      rw [List.take_append_drop] at passed
      rw [passed, ih]

theorem matchesIn_filter (keep : Rule → Bool) (cs : List Char) (prose : List Span) :
    matchesIn (Rule.all.filter keep) cs prose =
      (matchesIn Rule.all cs prose).filter (keep ·.rule) := by
  simp only [matchesIn, List.filter_flatMap, scan_filter]

/-- The settings with all rules in force. -/
def Settings.everything : Settings where
  allow := []
  deny := []
  noBinary := true
  sureness := .unlikely

theorem rules_everything : Settings.everything.rules = Rule.all := by
  decide +kernel

/-- Whether the rule that a message names passes. -/
def Message.Passes (s : Settings) (m : Message) : Prop :=
  ∃ r ∈ Rule.all, r.id = m.ruleId ∧ r.Passes s

instance (s : Settings) (m : Message) : Decidable (m.Passes s) :=
  inferInstanceAs (Decidable (∃ r ∈ Rule.all, r.id = m.ruleId ∧ r.Passes s))

variable {s : Settings}

theorem passes_message_iff {cs : List Char} {m : Match} {message : Message} (hm : m.rule ∈ Rule.all)
    (h : m.message cs = some message) : message.Passes s ↔ m.rule.isEnabled s = true := by
  rw [Rule.isEnabled_iff]
  have hid := (Match.of_message h).1
  constructor
  · intro ⟨r, hr, he, passes⟩
    exact Rule.passes_of_id hr hm (he.trans hid) passes
  · intro passes
    exact ⟨m.rule, hm, hid.symm, passes⟩

theorem messages_filter (cs : List Char) {ms : List Match} (h : ∀ m ∈ ms, m.rule ∈ Rule.all) :
    (ms.filter (·.rule.isEnabled s)).filterMap (Match.message cs) =
      (ms.filterMap (Match.message cs)).filter fun message => message.Passes s := by
  induction ms with
  | nil => rfl
  | cons m ms ih =>
    have hm := h m List.mem_cons_self
    have ih := ih fun n hn => h n (List.mem_cons_of_mem _ hn)
    cases hmsg : m.message cs with
    | none => cases hk : m.rule.isEnabled s <;> simp [hk, hmsg, ih]
    | some message =>
      have hp : message.Passes s ↔ m.rule.isEnabled s = true := passes_message_iff hm hmsg
      cases hk : m.rule.isEnabled s <;> simp [hk, hmsg, ih, hp]

theorem check_eq_filter_everything (valid : s.conflicting = false) (profile : Profile)
    (document : String) :
    check s profile document =
      (check .everything profile document).map (·.filter fun m => m.Passes s) := by
  have valid' : Settings.everything.conflicting = false := rfl
  unfold check
  rw [valid, valid']
  simp only [Bool.false_eq_true, if_false]
  cases profile.prose document.toList with
  | error => rfl
  | ok prose =>
    simp only [rules_everything, Except.map]
    rw [Settings.rules, matchesIn_filter, messages_filter]
    intro m hm
    exact (of_mem_matchesIn hm).1

/-- A check with any settings reports, of what it reports with all rules in force, what is of rules
that pass, and it fails where that does. So settings that differ in some rules report the same of
the others. -/
theorem settings_filter (s : Settings) (valid : s.conflicting = false) (profile : Profile)
    (document : String) :
    check s profile document =
      (check .everything profile document).map (·.filter fun m => m.Passes s) ∧
    ∀ t : Settings, t.conflicting = false → ∀ other : String → Bool,
      (∀ r ∈ Rule.all, other r.id = true → (r.Passes s ↔ r.Passes t)) →
      (check s profile document).map (·.filter fun m => other m.ruleId) =
        (check t profile document).map (·.filter fun m => other m.ruleId) := by
  refine ⟨check_eq_filter_everything valid profile document, ?_⟩
  intro t valid' other same
  rw [check_eq_filter_everything valid, check_eq_filter_everything valid']
  cases check .everything profile document with
  | error => rfl
  | ok ms =>
    simp only [Except.map, List.filter_filter, Except.ok.injEq]
    apply List.filter_congr
    intro m _
    cases ho : other m.ruleId with
    | false => rfl
    | true =>
      have hp : m.Passes s ↔ m.Passes t := by
        constructor
        · intro ⟨r, hr, he, passes⟩
          exact ⟨r, hr, he, (same r hr (by rw [he, ho])).mp passes⟩
        · intro ⟨r, hr, he, passes⟩
          exact ⟨r, hr, he, (same r hr (by rw [he, ho])).mpr passes⟩
      simp [hp]

/-- Leaving out one rule leaves what another one reports as it is. -/
theorem settings_filter_guys :
    Settings.conflicting { allow := ["guys"] } = false ∧
    check { allow := ["guys"] } .text "Guys, a dummy" =
      (check .everything .text "Guys, a dummy").map
        (·.filter fun m => m.Passes { allow := ["guys"] }) ∧
    (check { allow := ["guys"] } .text "Guys, a dummy").map (·.filter fun m => m.ruleId != "guys") =
      (check {} .text "Guys, a dummy").map (·.filter fun m => m.ruleId != "guys") := by
  have same : ∀ r ∈ Rule.all, (r.id != "guys") = true →
      (r.Passes { allow := ["guys"] } ↔ r.Passes {}) := by
    decide +kernel
  obtain ⟨filtered, others⟩ := settings_filter { allow := ["guys"] } rfl .text "Guys, a dummy"
  exact ⟨rfl, filtered, others {} rfl (· != "guys") same⟩

end Considerate
