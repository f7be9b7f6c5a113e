import Considerate.Proofs.Schedule.Operations

namespace Considerate.Schedule

variable {κ : Type} {s t : Schedule} {holds : κ → Url → Nat → Prop}

/-- `holds k u ticket` says that `k` runs a pass for `u` with the ticket. Each ticket has been
given out, none is held twice, and every document that is being linted has a holder. -/
structure Held (s : Schedule) (holds : κ → Url → Nat → Prop) : Prop where
  issued : ∀ k u ticket, holds k u ticket → ticket ≤ s.lastTicket
  apart : ∀ k l u v ticket, holds k u ticket → holds l v ticket → k = l
  taken : ∀ u slot, s.pending.get? u = some slot → ∃ k, holds k u slot.ticket

theorem Held.none : Held {} (fun (_ : κ) _ _ => False) where
  issued _ _ _ h := h.elim
  apart _ _ _ _ _ h := h.elim
  taken u slot h := by cases h

theorem Held.congr (h : Held s holds) {holds' : κ → Url → Nat → Prop}
    (he : ∀ k u ticket, holds' k u ticket ↔ holds k u ticket) : Held s holds' := by
  have : holds' = holds := by
    funext k u ticket
    exact propext (he k u ticket)
  exact this ▸ h

theorem Held.enqueue (h : Held s holds) (r : Request) : Held (s.enqueue r) holds :=
  ⟨h.issued, h.apart, h.taken⟩

theorem Held.cancel (h : Held s holds) (u : Url) : Held (s.cancel u) holds := by
  refine ⟨h.issued, h.apart, ?_⟩
  intro v slot hv
  by_cases he : v = u
  · subst he
    simp at hv
  · exact h.taken v slot ((pending_cancel_ne s he).symm.trans hv)

theorem Held.claim (h : Held s holds) (r : Request) (k : κ) (hk : ∀ u ticket, ¬ holds k u ticket) :
    Held (s.claim r).1 fun l u ticket =>
      holds l u ticket ∨ l = k ∧ u = r.url ∧ ticket = s.lastTicket + 1 := by
  refine ⟨?_, ?_, ?_⟩
  · rintro l u ticket (hl | ⟨_, _, rfl⟩)
    · have := h.issued l u ticket hl
      rw [lastTicket_claim]
      omega
    · exact Nat.le_refl _
  · rintro l m u v ticket (hl | ⟨rfl, _, rfl⟩) (hm | ⟨rfl, _, he⟩)
    · exact h.apart l m u v ticket hl hm
    · have := h.issued l u ticket hl
      omega
    · have := h.issued m v _ hm
      omega
    · rfl
  · intro u slot hu
    by_cases he : u = r.url
    · subst he
      rw [pending_claim_self, Option.some.injEq] at hu
      subst hu
      exact ⟨k, Or.inr ⟨rfl, rfl, rfl⟩⟩
    · obtain ⟨l, hl⟩ := h.taken u slot ((pending_claim_ne s he).symm.trans hu)
      exact ⟨l, Or.inl hl⟩

/-- A holder whose pass ends leaves nothing behind, if its document is freed where it owns it. -/
theorem Held.leave (h : Held s holds) {k : κ} {u : Url} {ticket : Nat}
    (hk : ∀ v m, holds k v m → v = u ∧ m = ticket) (hl : t.lastTicket = s.lastTicket)
    (hp : ∀ v slot, t.pending.get? v = some slot →
      s.pending.get? v = some slot ∧ (v = u → slot.ticket ≠ ticket)) :
    Held t fun l v m => holds l v m ∧ l ≠ k := by
  refine ⟨?_, ?_, ?_⟩
  · intro l v m hm
    rw [hl]
    exact h.issued l v m hm.1
  · intro l m v w n hv hw
    exact h.apart l m v w n hv.1 hw.1
  · intro v slot hv
    obtain ⟨hs, hne⟩ := hp v slot hv
    obtain ⟨l, hh⟩ := h.taken v slot hs
    refine ⟨l, hh, ?_⟩
    intro he
    obtain ⟨hvu, ht⟩ := hk v slot.ticket (he ▸ hh)
    exact hne hvu ht

theorem Held.stale (h : Held s holds) {k : κ} {u : Url} {ticket : Nat}
    (hk : ∀ v m, holds k v m → v = u ∧ m = ticket) (ho : s.owns u ticket = false) :
    Held s fun l v m => holds l v m ∧ l ≠ k := by
  apply h.leave hk rfl
  intro v slot hv
  refine ⟨hv, ?_⟩
  rintro rfl ht
  rw [owns_iff.mpr ⟨slot, hv, ht⟩] at ho
  cases ho

theorem Held.free (h : Held s holds) {k : κ} {u : Url} {ticket : Nat}
    (hk : ∀ v m, holds k v m → v = u ∧ m = ticket) :
    Held { s with pending := s.pending.erase u } fun l v m => holds l v m ∧ l ≠ k := by
  refine h.leave (t := { s with pending := s.pending.erase u }) hk rfl ?_
  intro v slot hv
  by_cases he : v = u
  · subst he
    simp at hv
  · exact ⟨(Keyed.get?_erase_ne _ he).symm.trans hv, fun hu => (he hu).elim⟩

theorem Held.drop (h : Held s holds) {k : κ} {u : Url} {ticket : Nat}
    (hk : ∀ v m, holds k v m → v = u ∧ m = ticket) :
    Held (s.drop u ticket) fun l v m => holds l v m ∧ l ≠ k := by
  rcases drop_cases s u ticket with ⟨ho, he⟩ | ⟨_, he⟩
  · rw [he]
    exact h.stale hk ho
  · rw [he]
    exact h.free hk

/-- A document that is handed over goes from one holder to the next, which may be the same. -/
theorem Held.hand_over (h : Held s holds) {k l : κ} {u : Url} {ticket : Nat} {next : Request}
    (hk : ∀ v m, holds k v m → v = u ∧ m = ticket) (ht : HandedOver s u next t)
    (hl : ∀ v m, holds l v m → l = k) :
    Held t fun m v n =>
      holds m v n ∧ m ≠ k ∨ m = l ∧ v = u ∧ n = s.lastTicket + 1 := by
  have hi := ht.ticket
  refine ⟨?_, ?_, ?_⟩
  · rintro m v n (⟨hm, _⟩ | ⟨_, _, rfl⟩)
    · have := h.issued m v n hm
      omega
    · omega
  · rintro m m' v w n (⟨hm, _⟩ | ⟨rfl, _, rfl⟩) (⟨hm', _⟩ | ⟨rfl, _, he⟩)
    · exact h.apart m m' v w n hm hm'
    · have := h.issued m v n hm
      omega
    · have := h.issued m' w _ hm'
      omega
    · rfl
  · intro v slot hv
    by_cases he : v = u
    · subst he
      rw [ht.slot, Option.some.injEq] at hv
      subst hv
      exact ⟨l, Or.inr ⟨rfl, rfl, rfl⟩⟩
    · rw [ht.others v he] at hv
      obtain ⟨m, hm⟩ := h.taken v slot hv
      refine ⟨m, Or.inl ⟨hm, ?_⟩⟩
      intro hmk
      exact he (hk v _ (hmk ▸ hm)).1

end Considerate.Schedule
