import Considerate.Reason
import Considerate.Rule
import Mathlib.Data.List.Infix

namespace Considerate.Rule

variable {r q : Rule} {p : String}

theorem phrase_ne_nil (h : r ∈ all) : r.phrase ≠ [] := by
  revert r
  decide

/-- No two phrases start with the same word. -/
theorem eq_of_head (hr : r ∈ all) (hq : q ∈ all) (h : r.phrase.head? = q.phrase.head?) : r = q := by
  have h' : ∀ r ∈ all, ∀ q ∈ all, r.phrase.head? = q.phrase.head? → r = q := by
    decide +kernel
  exact h' r hr q hq h

/-- No phrase starts with a word that stands further on in a phrase. -/
theorem head_ne_of_mem_tail (hr : r ∈ all) (hp : p ∈ r.phrase.tail) (hq : q ∈ all) :
    q.phrase.head? ≠ some p := by
  have h : ∀ r ∈ all, ∀ p ∈ r.phrase.tail, ∀ q ∈ all, q.phrase.head? ≠ some p := by
    decide +kernel
  exact h r hr p hp q hq

theorem kind_of_id (hr : r ∈ all) (hq : q ∈ all) (h : r.id = q.id) : r.kind = q.kind := by
  have h' : ∀ r ∈ all, ∀ q ∈ all, r.id = q.id → r.kind = q.kind := by
    decide +kernel
  exact h' r hr q hq h

theorem comma_not_mem_phrase (hr : r ∈ all) : ∀ p ∈ r.phrase, ',' ∉ p.toList := by
  have h : ∀ r ∈ all, ∀ p ∈ r.phrase, ',' ∉ p.toList := by
    decide +kernel
  exact h r hr

theorem plain_suggestions (hr : r ∈ all) :
    ∀ s ∈ r.suggestions, '`' ∉ s.toList ∧ ¬ suggestionMark <:+: s.toList := by
  have h : ∀ r ∈ all, ∀ s ∈ r.suggestions, '`' ∉ s.toList ∧ ¬ suggestionMark <:+: s.toList := by
    decide +kernel
  exact h r hr

theorem feed_not_mem_suggestions (hr : r ∈ all) : ∀ s ∈ r.suggestions, '\n' ∉ s.toList := by
  have h : ∀ r ∈ all, ∀ s ∈ r.suggestions, '\n' ∉ s.toList := by
    decide +kernel
  exact h r hr

/-- What makes the settings leave a rule in force. -/
structure Passes (s : Settings) (r : Rule) : Prop where
  allowed : r.id ∉ s.allow
  denied : s.deny ≠ [] → r.id ∈ s.deny
  pronoun : ∀ suggestions, r.kind = .binary suggestions → s.noBinary = true
  profane : ∀ sureness, r.kind = .profanity sureness → s.sureness.rank ≤ sureness.rank

theorem isEnabled_iff (s : Settings) (r : Rule) : r.isEnabled s = true ↔ r.Passes s := by
  have admits : s.admits r.id = true ↔ r.id ∉ s.allow ∧ (s.deny ≠ [] → r.id ∈ s.deny) := by
    by_cases h : s.deny = [] <;> simp [Settings.admits, h]
  unfold isEnabled
  rw [Bool.and_eq_true, admits]
  constructor
  · intro ⟨⟨allowed, denied⟩, hk⟩
    refine ⟨allowed, denied, ?_, ?_⟩
    · intro _ he
      simpa [he] using hk
    · intro _ he
      simpa [he] using hk
  · intro h
    refine ⟨⟨h.allowed, h.denied⟩, ?_⟩
    cases hk : r.kind with
    | insensitive => rfl
    | binary suggestions => exact h.pronoun suggestions hk
    | profanity sureness => exact decide_eq_true (h.profane sureness hk)

instance (s : Settings) (r : Rule) : Decidable (r.Passes s) :=
  decidable_of_iff _ (isEnabled_iff s r)

theorem passes_of_id {s : Settings} (hr : r ∈ all) (hq : q ∈ all) (h : r.id = q.id)
    (hp : r.Passes s) : q.Passes s := by
  have hk := kind_of_id hr hq h
  obtain ⟨allowed, denied, pronoun, profane⟩ := hp
  rw [h] at allowed denied
  rw [hk] at pronoun profane
  exact ⟨allowed, denied, pronoun, profane⟩

end Considerate.Rule
