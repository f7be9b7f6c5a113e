import Considerate.Proofs.Session.Fetched

namespace Considerate.Session

theorem kept_along {P : List Action → Prop} {before rest : List Action} (h : P before)
    (step : ∀ earlier a later, rest = earlier ++ a :: later → P (before ++ earlier) →
      P (before ++ earlier ++ [a])) : P (before ++ rest) := by
  induction rest using List.reverseRecOn with
  | nil => rwa [List.append_nil]
  | append_singleton rest a ih =>
    rw [← List.append_assoc]
    apply step rest a [] rfl
    apply ih
    intro earlier b later he
    exact step earlier b (later ++ [a]) (by simp [he])

variable {s t : Session} {k n : Nat} {u v : Url} {st next : Stage} {a : Action} {es : List Effect}

/-- The document has the cell, or some task wants it for the document. -/
def Claims (s : Session) (u : Url) (n : Nat) : Prop :=
  s.cells.current.get? u = some n ∨ ∃ k reader, s.tasks.get? k = some (.cell u n reader)

theorem Placed.lt_of_claims (h : Placed s) (claims : s.Claims u n) : n < s.cells.all.length := by
  rcases claims with hc | ⟨k, reader, hk⟩
  · exact h.bounded u n hc
  · exact h.known k _ n hk rfl

/-- A claim is there before an action, or the document gets a new cell by it. -/
theorem Step.claims (h : Step s a t es) (claims : t.Claims u n) :
    s.Claims u n ∨ t.cells.current.get? u = some n ∧ s.cells.all.length ≤ n := by
  have fresh : t.cells.current.get? u = some n →
      s.Claims u n ∨ t.cells.current.get? u = some n ∧ s.cells.all.length ≤ n := by
    intro hc
    by_cases hn : n < s.cells.all.length
    · exact Or.inl (Or.inl (h.tends.current_of_lt hc hn))
    · exact Or.inr ⟨hc, Nat.le_of_not_lt hn⟩
  rcases claims with hc | ⟨k, reader, hk⟩
  · exact fresh hc
  · cases h.arises hk with
    | stays a found => exact Or.inl (Or.inr ⟨k, reader, found⟩)
    | called job new => cases new
    | answered c plan x found back => cases back
    | linted p settings found ended => cases ended
    | moved old t' found ready moves result sight =>
      rcases moves.seeks.wants with hc | rfl
      · apply fresh
        rw [result, cells_put]
        exact hc
      · exact Or.inl (Or.inr ⟨k, reader, found⟩)

/-- In every state that a session reaches, a cell is claimed for one document. -/
theorem eq_of_claims_at (as : List Action) (hu : (after as).Claims u n)
    (hv : (after as).Claims v n) : u = v := by
  induction as using List.reverseRecOn with
  | nil =>
    rcases hu with hc | ⟨k, reader, hk⟩
    · cases hc
    · cases hk
  | append_singleton as a ih =>
    have hp := placed_after as
    have hp' := placed_after (as ++ [a])
    rw [after_snoc] at hu hv hp'
    have hs := step_act (after as) a
    rcases hs.claims hu with hu | ⟨hcu, hn⟩
    · rcases hs.claims hv with hv | ⟨_, hn⟩
      · exact ih hu hv
      · exact (Nat.not_lt.mpr hn (hp.lt_of_claims hu)).elim
    · rcases hs.claims hv with hv | ⟨hcv, _⟩
      · exact (Nat.not_lt.mpr hn (hp.lt_of_claims hv)).elim
      · exact hp'.apart u v n hcu hcv

/-- A cell is claimed for one document at all times. -/
theorem eq_of_claims {before rest : List Action} (hu : (after before).Claims u n)
    (hv : (after (before ++ rest)).Claims v n) : u = v := by
  have belongs : n < (after (before ++ rest)).cells.all.length ∧
      ∀ w, (after (before ++ rest)).Claims w n → u = w := by
    apply kept_along (P := fun as => n < (after as).cells.all.length ∧
      ∀ w, (after as).Claims w n → u = w)
    · exact ⟨(placed_after before).lt_of_claims hu, fun w hw => eq_of_claims_at before hu hw⟩
    · intro earlier a later _ ⟨hn, hw⟩
      have hs := step_act (after (before ++ earlier)) a
      rw [after_snoc]
      refine ⟨Nat.lt_of_lt_of_le hn hs.tends.length, ?_⟩
      intro w claims
      rcases hs.claims claims with claims | ⟨_, hle⟩
      · exact hw w claims
      · exact (Nat.not_lt.mpr hle hn).elim
  exact belongs.2 v hv

theorem eq_of_claims_prefix {as before rest : List Action} (hb : before <+: as) (hr : rest <+: as)
    (hu : (after before).Claims u n) (hv : (after rest).Claims v n) : u = v := by
  rcases List.prefix_or_prefix_of_prefix hb hr with ⟨later, rfl⟩ | ⟨later, rfl⟩
  · exact eq_of_claims hu hv
  · exact (eq_of_claims hv hu).symm

theorem length_cells_le (before rest : List Action) :
    (after before).cells.all.length ≤ (after (before ++ rest)).cells.all.length := by
  apply kept_along (P := fun as =>
    (after before).cells.all.length ≤ (after as).cells.all.length) (Nat.le_refl _)
  intro earlier a later _ hle
  rw [after_snoc]
  exact Nat.le_trans hle (step_act (after (before ++ earlier)) a).tends.length

/-- The cell that a document without one comes to have is a new one. -/
theorem length_cells_le_of_current {before rest : List Action}
    (hb : (after before).cells.current.get? u = none)
    (hc : (after (before ++ rest)).cells.current.get? u = some n) :
    (after before).cells.all.length ≤ n := by
  have fresh : ∀ m, (after (before ++ rest)).cells.current.get? u = some m →
      (after before).cells.all.length ≤ m := by
    apply kept_along (P := fun as => ∀ m, (after as).cells.current.get? u = some m →
      (after before).cells.all.length ≤ m)
    · intro m hm
      rw [hb] at hm
      cases hm
    · intro earlier a later _ h m hm
      have hle := length_cells_le before earlier
      rw [after_snoc] at hm
      by_cases hlt : m < (after (before ++ earlier)).cells.all.length
      · exact h m ((step_act (after (before ++ earlier)) a).tends.current_of_lt hm hlt)
      · omega
  exact fresh n hc

/-- A question to the editor, and what became of it. -/
structure Fetch where
  task : Nat
  asked : List Action
  unanswered : List Action
  answer : Answer
  unused : List Action

namespace Fetch

/-- All that was done before the task went on with the answer. -/
def history (f : Fetch) : List Action :=
  f.asked ++ .advance f.task :: (f.unanswered ++ .answer f.task f.answer :: f.unused)

/-- The settings that the answer amounted to when the task went on with it. -/
def settings (f : Fetch) : Settings := (after f.history).settingsFrom f.answer.configuration

/-- The question was about the settings of the document, and the answer is the first one to it. -/
structure About (f : Fetch) (u : Url) : Prop where
  asks : .called f.task (.configuration u) ∈ ((after f.asked).act (.advance f.task)).2
  first : ∀ x, .answer f.task x ∉ f.unanswered
  once : .advance f.task ∉ f.unused

end Fetch

/-- A task that asks the editor for the settings in a cell wants them for the document to which the
cell belongs, and the value of a cell is what was fetched so. -/
structure Traced (as : List Action) : Prop where
  asks : ∀ k n c reader, (after as).tasks.get? k = some (.calling c (.configured n reader)) →
    ∃ v asked unanswered, as = asked ++ .advance k :: unanswered ∧ (after asked).Claims v n ∧
      c = .configuration v ∧ .called k c ∈ ((after asked).act (.advance k)).2 ∧
      ∀ x, .answer k x ∉ unanswered
  answers : ∀ k n x reader, (after as).tasks.get? k = some (.back (.configured n reader) x) →
    ∃ v f, Fetch.About f v ∧ f.task = k ∧ f.answer = x ∧ (after f.asked).Claims v n ∧
      as = f.history
  value : ∀ n settings, ((after as).cells.get n).value = some settings →
    ∃ v f rest, Fetch.About f v ∧ f.settings = settings ∧ (after f.asked).Claims v n ∧
      as = f.history ++ .advance f.task :: rest

theorem Traced.snoc {as : List Action} (h : Traced as) (a : Action) : Traced (as ++ [a]) := by
  have hs := step_act (after as) a
  refine ⟨?_, ?_, ?_⟩
  · intro k n c reader hk
    rw [after_snoc] at hk
    cases hs.arises hk with
    | stays a found stuck silent kept =>
      obtain ⟨v, asked, unanswered, rfl, claims, rfl, called, first⟩ := h.asks k n c reader found
      refine ⟨v, asked, unanswered ++ [a], by simp, claims, rfl, called, ?_⟩
      intro x hx
      rcases List.mem_append.mp hx with hx | hx
      · exact first x hx
      · exact silent x _ _ (List.mem_singleton.mp hx).symm rfl
    | called job fresh => cases fresh
    | answered c plan x found back => cases back
    | linted p settings found ended => cases ended
    | moved old t found ready moves result sight =>
      obtain ⟨v, r, rfl, rfl⟩ := moves.seeks.asks
      exact ⟨v, as, [], rfl, Or.inr ⟨k, r, found⟩, rfl, sight _ (by simp [seen]), by simp⟩
  · intro k n x reader hk
    rw [after_snoc] at hk
    cases hs.arises hk with
    | stays a found stuck silent kept =>
      obtain ⟨v, f, about, rfl, rfl, claims, rfl⟩ := h.answers k n x reader found
      refine ⟨v, { f with unused := f.unused ++ [a] }, ⟨about.asks, about.first, ?_⟩, rfl, rfl,
        claims, by simp [Fetch.history]⟩
      intro hx
      rcases List.mem_append.mp hx with hx | hx
      · exact about.once hx
      · cases stuck (List.mem_singleton.mp hx).symm
    | called job fresh => cases fresh
    | linted p settings found ended => cases ended
    | moved old t found ready moves result sight => exact (moves.ne_back rfl).elim
    | answered c plan y found back =>
      cases back
      obtain ⟨v, asked, unanswered, rfl, claims, rfl, called, first⟩ := h.asks k n c reader found
      exact ⟨v, ⟨k, asked, unanswered, x, []⟩, ⟨called, first, by simp⟩, rfl, rfl, claims,
        by simp [Fetch.history]⟩
  · intro n settings hv
    rw [after_snoc] at hv
    rcases hs.tends.value hv with hv | ⟨id, reader, x, rfl, found, _, rfl⟩
    · obtain ⟨v, f, rest, about, rfl, claims, rfl⟩ := h.value n settings hv
      exact ⟨v, f, rest ++ [a], about, rfl, claims, by simp⟩
    · obtain ⟨v, f, about, rfl, rfl, claims, rfl⟩ := h.answers id n x reader found
      exact ⟨v, f, [], about, rfl, claims, rfl⟩

/-- In every state that a session reaches, the values of all cells have been fetched. -/
theorem traced_after (as : List Action) : Traced as := by
  induction as using List.reverseRecOn with
  | nil =>
    refine ⟨?_, ?_, ?_⟩
    · intro k n c reader hk
      cases hk
    · intro k n x reader hk
      cases hk
    · intro n settings hv
      cases hv
  | append_singleton as a ih => exact ih.snoc a

end Considerate.Session
