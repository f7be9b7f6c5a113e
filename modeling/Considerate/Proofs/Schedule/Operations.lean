import Considerate.Schedule.Basic

namespace Considerate.Schedule

theorem isPending_iff {s : Schedule} {u : Url} :
    s.isPending u = true ↔ ∃ slot, s.pending.get? u = some slot :=
  Option.isSome_iff_exists

theorem not_isPending_iff {s : Schedule} {u : Url} :
    s.isPending u = false ↔ s.pending.get? u = none := by
  simp [isPending, Keyed.contains]

theorem owns_iff {s : Schedule} {u : Url} {ticket : Nat} :
    s.owns u ticket = true ↔ ∃ slot, s.pending.get? u = some slot ∧ slot.ticket = ticket := by
  unfold owns
  cases s.pending.get? u <;> simp

theorem isPending_of_owns {s : Schedule} {u : Url} {ticket : Nat} (h : s.owns u ticket = true) :
    s.isPending u = true := by
  obtain ⟨slot, hs, _⟩ := owns_iff.mp h
  exact isPending_iff.mpr ⟨slot, hs⟩

/-- The slot of a document says whether it is being linted, and by which pass. -/
theorem isPending_congr {s t : Schedule} {u : Url} (h : t.pending.get? u = s.pending.get? u) :
    t.isPending u = s.isPending u := by
  simp [isPending, Keyed.contains, h]

theorem owns_congr {s t : Schedule} {u : Url} {ticket : Nat}
    (h : t.pending.get? u = s.pending.get? u) : t.owns u ticket = s.owns u ticket := by
  simp [owns, h]

theorem mem_queuedFor {s : Schedule} {r : Request} :
    r.options ∈ s.queuedFor r.url ↔ r ∈ s.queued := by
  simp only [queuedFor, List.mem_map, List.mem_filter, decide_eq_true_eq]
  constructor
  · rintro ⟨q, ⟨hq, hu⟩, ho⟩
    cases q
    cases r
    simp_all
  · intro h
    exact ⟨r, ⟨h, rfl⟩, rfl⟩

@[simp] theorem pending_enqueue (s : Schedule) (r : Request) :
    (s.enqueue r).pending = s.pending := rfl

@[simp] theorem lastTicket_enqueue (s : Schedule) (r : Request) :
    (s.enqueue r).lastTicket = s.lastTicket := rfl

/-- Only a request that does not wait already joins those for its document. -/
theorem queuedFor_enqueue (s : Schedule) (r : Request) (u : Url) :
    (s.enqueue r).queuedFor u =
      s.queuedFor u ++ if r.url = u ∧ r ∉ s.queued then [r.options] else [] := by
  by_cases hm : r ∈ s.queued
  · simp [enqueue, queuedFor, hm]
  · by_cases hu : r.url = u <;> simp [enqueue, queuedFor, hm, hu]

theorem mem_enqueue (s : Schedule) (r : Request) : r ∈ (s.enqueue r).queued := by
  by_cases h : r ∈ s.queued <;> simp [enqueue, h]

@[simp] theorem queuedFor_claim (s : Schedule) (r : Request) (u : Url) :
    (s.claim r).1.queuedFor u = s.queuedFor u := rfl

@[simp] theorem lastTicket_claim (s : Schedule) (r : Request) :
    (s.claim r).1.lastTicket = s.lastTicket + 1 := rfl

@[simp] theorem ticket_claim (s : Schedule) (r : Request) : (s.claim r).2 = s.lastTicket + 1 := rfl

@[simp] theorem pending_claim_self (s : Schedule) (r : Request) :
    (s.claim r).1.pending.get? r.url = some ⟨r.options, s.lastTicket + 1⟩ :=
  Keyed.get?_set_self ..

theorem pending_claim_ne (s : Schedule) {r : Request} {u : Url} (h : u ≠ r.url) :
    (s.claim r).1.pending.get? u = s.pending.get? u :=
  Keyed.get?_set_ne _ h _

/-- Taking out the first request for a document leaves those for it that came later, and all
those for other documents. -/
theorem filter_erase_first {queue : List Request} {u : Url} {next : Request}
    (h : queue.find? (fun r => r.url = u) = some next) :
    (queue.filter fun r => r.url = u) = next :: (queue.erase next).filter (fun r => r.url = u) ∧
      ∀ v, v ≠ u → ((queue.erase next).filter fun r => r.url = v) =
        queue.filter fun r => r.url = v := by
  induction queue with
  | nil => simp at h
  | cons q queue ih =>
    by_cases hq : q.url = u
    · simp only [List.find?_cons, hq, decide_true, Option.some.injEq] at h
      subst next
      refine ⟨by simp [hq], ?_⟩
      intro v hv
      simp [hq, Ne.symm hv]
    · simp only [List.find?_cons, hq, decide_false] at h
      have hu : next.url = u := by simpa using List.find?_some h
      have hne : q ≠ next := by
        intro he
        exact hq (he ▸ hu)
      obtain ⟨hself, hother⟩ := ih h
      refine ⟨?_, ?_⟩
      · simpa [hq, List.erase_cons, hne] using hself
      · intro v hv
        by_cases hqv : q.url = v <;> simp [hqv, hne, hother v hv]

/-- `t` is `s` after the document `u` has gone over to the request `next`, the first that waited
for it. -/
structure HandedOver (s : Schedule) (u : Url) (next : Request) (t : Schedule) : Prop where
  url : next.url = u
  waited : next ∈ s.queued
  ticket : t.lastTicket = s.lastTicket + 1
  slot : t.pending.get? u = some ⟨next.options, s.lastTicket + 1⟩
  others : ∀ v, v ≠ u → t.pending.get? v = s.pending.get? v
  queue : t.queued = s.queued.erase next
  first : s.queuedFor u = next.options :: t.queuedFor u
  others_wait : ∀ v, v ≠ u → t.queuedFor v = s.queuedFor v

/-- A release does nothing for a pass that does not own the document. Else it frees the document,
or hands it over if a request waits for it. -/
theorem release_cases (s : Schedule) (u : Url) (ticket : Nat) :
    (s.owns u ticket = false ∧ s.release u ticket = (s, none)) ∨
    (s.owns u ticket = true ∧ s.queuedFor u = [] ∧
      s.release u ticket = ({ s with pending := s.pending.erase u }, none)) ∨
    (s.owns u ticket = true ∧ ∃ next t, HandedOver s u next t ∧
      s.release u ticket = (t, some (next, s.lastTicket + 1))) := by
  cases ho : s.owns u ticket with
  | false => exact Or.inl ⟨rfl, by simp [release, ho]⟩
  | true =>
    right
    cases hf : s.queued.find? (fun r => r.url = u) with
    | none =>
      left
      refine ⟨rfl, ?_, by simp [release, ho, hf]⟩
      simpa [queuedFor, List.filter_eq_nil_iff] using hf
    | some next =>
      right
      have hu : next.url = u := by simpa using List.find?_some hf
      subst hu
      obtain ⟨hself, hother⟩ := filter_erase_first hf
      refine ⟨rfl, next, _, ?_, by simp only [release, ho, hf, if_true]; rfl⟩
      exact {
        url := rfl
        waited := List.mem_of_find?_eq_some hf
        ticket := rfl
        slot := pending_claim_self ..
        others := fun v hv => (pending_claim_ne _ hv).trans (Keyed.get?_erase_ne _ hv)
        queue := rfl
        first := by simp [queuedFor, hself, claim]
        others_wait := fun v hv => by simp [queuedFor, hother v hv, claim] }

@[simp] theorem pending_cancel_self (s : Schedule) (u : Url) :
    (s.cancel u).pending.get? u = none :=
  Keyed.get?_erase_self ..

theorem pending_cancel_ne (s : Schedule) {u v : Url} (h : v ≠ u) :
    (s.cancel u).pending.get? v = s.pending.get? v :=
  Keyed.get?_erase_ne _ h

@[simp] theorem queuedFor_cancel_self (s : Schedule) (u : Url) : (s.cancel u).queuedFor u = [] := by
  simp [cancel, queuedFor]

theorem queuedFor_cancel_ne (s : Schedule) {u v : Url} (h : v ≠ u) :
    (s.cancel u).queuedFor v = s.queuedFor v := by
  simp only [cancel, queuedFor, List.filter_filter]
  congr 1
  apply List.filter_congr
  intro r _
  by_cases hr : r.url = v <;> simp [hr, h]

@[simp] theorem queued_drop (s : Schedule) (u : Url) (ticket : Nat) :
    (s.drop u ticket).queued = s.queued := by
  unfold drop
  split <;> rfl

@[simp] theorem queuedFor_drop (s : Schedule) (u : Url) (ticket : Nat) (v : Url) :
    (s.drop u ticket).queuedFor v = s.queuedFor v := by
  simp [queuedFor]

/-- Dropping a pass frees its document if it owns it. -/
theorem drop_cases (s : Schedule) (u : Url) (ticket : Nat) :
    (s.owns u ticket = false ∧ s.drop u ticket = s) ∨
    (s.owns u ticket = true ∧ s.drop u ticket = { s with pending := s.pending.erase u }) := by
  cases ho : s.owns u ticket <;> simp [drop, ho]

end Considerate.Schedule
