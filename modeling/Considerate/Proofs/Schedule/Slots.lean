import Considerate.Proofs.Schedule.Held
import Considerate.Proofs.Schedule.History
import Mathlib.Data.List.Nodup

namespace Considerate.Schedule.Run

variable {α : Type} [Inhabited α] {r r' : Run} {a : Action α} {es : List (Effect α)}

def holds (r : Run) (c : Caller) (u : Url) (ticket : Nat) : Prop :=
  c ∈ r.callers ∧ c.request.url = u ∧ c.ticket = ticket

/-- The callers of a run have passes of their own, and hold the tickets of its schedule. -/
structure Sound (r : Run) : Prop where
  numbered : ∀ c ∈ r.callers, c.pass < r.passes
  passes_nodup : (r.callers.map Caller.pass).Nodup
  held : r.schedule.Held r.holds

theorem holds_only {c : Caller} {v : Url} {m : Nat} (h : r.holds c v m) :
    v = c.request.url ∧ m = c.ticket :=
  ⟨h.2.1.symm, h.2.2.symm⟩

theorem holds_remove {c d : Caller} {u : Url} {m : Nat} :
    (r.remove c).holds d u m ↔ r.holds d u m ∧ d ≠ c := by
  simp only [holds, mem_remove]
  exact ⟨fun h => ⟨⟨h.1.1, h.2⟩, h.1.2⟩, fun h => ⟨⟨h.1.1, h.2⟩, h.1.2⟩⟩

theorem Sound.eq_of_ticket (h : r.Sound) {c d : Caller} (hc : c ∈ r.callers) (hd : d ∈ r.callers)
    (he : c.ticket = d.ticket) : c = d :=
  h.held.apart c d _ _ d.ticket ⟨hc, rfl, he⟩ ⟨hd, rfl, rfl⟩

theorem Sound.callerOf (h : r.Sound) {c : Caller} (hc : c ∈ r.callers) :
    r.callerOf c.pass = some c := by
  cases hf : r.callerOf c.pass with
  | none =>
    have hn := List.find?_eq_none.mp hf c hc
    simp at hn
  | some d =>
    obtain ⟨hd, he⟩ := mem_of_callerOf hf
    exact congrArg some (List.inj_on_of_nodup_map h.passes_nodup hd hc he)

theorem Sound.not_begun (h : r.Sound) (id : Nat) (q : Request) (ticket : Nat) :
    r.begun id q ticket ∉ r.callers := by
  intro hm
  exact Nat.lt_irrefl _ (h.numbered _ hm)

theorem Sound.not_holds_begun (h : r.Sound) (id : Nat) (q : Request) (ticket : Nat) (u : Url)
    (m : Nat) : ¬ r.holds (r.begun id q ticket) u m :=
  fun hh => h.not_begun id q ticket hh.1

/-- Leaving keeps the callers sound if it keeps the tickets held. -/
theorem Sound.remove (h : r.Sound) (c : Caller) {s : Schedule}
    (hs : s.Held fun d u m => r.holds d u m ∧ d ≠ c) :
    Sound { r.remove c with schedule := s } where
  numbered d hd := h.numbered d (mem_remove.mp hd).1
  passes_nodup := h.passes_nodup.sublist (List.filter_sublist.map Caller.pass)
  held := hs.congr fun _ _ _ => holds_remove

/-- So does a new pass, which has the next number. -/
theorem Sound.begin (h : r.Sound) {id : Nat} {q : Request} {ticket : Nat} {s : Schedule}
    {cs : List Caller} (hcs : cs.Sublist r.callers)
    (hs : s.Held fun d u m => d ∈ cs ∧ d.request.url = u ∧ d.ticket = m ∨
      d = r.begun id q ticket ∧ u = q.url ∧ m = ticket) :
    Sound { schedule := s, callers := cs ++ [r.begun id q ticket], passes := r.passes + 1 } where
  numbered d hd := by
    rcases List.mem_append.mp hd with hd | hd
    · exact Nat.lt_succ_of_lt (h.numbered d (hcs.subset hd))
    · rw [List.mem_singleton.mp hd]
      exact Nat.lt_succ_self _
  passes_nodup := by
    rw [List.map_append, List.nodup_append]
    refine ⟨h.passes_nodup.sublist (hcs.map Caller.pass), by simp, ?_⟩
    intro n hn m hm
    obtain ⟨d, hd, rfl⟩ := List.mem_map.mp hn
    have hlt := h.numbered d (hcs.subset hd)
    simp only [List.map_cons, List.map_nil, List.mem_singleton] at hm
    subst hm
    exact Nat.ne_of_lt hlt
  held := hs.congr fun d u m => by
    simp only [holds, List.mem_append, List.mem_singleton]
    constructor
    · rintro ⟨hd | rfl, hu, hm⟩
      · exact Or.inl ⟨hd, hu, hm⟩
      · exact Or.inr ⟨rfl, hu.symm, hm.symm⟩
    · rintro (⟨hd, hu, hm⟩ | ⟨rfl, rfl, rfl⟩)
      · exact ⟨Or.inl hd, hu, hm⟩
      · exact ⟨Or.inr rfl, rfl, rfl⟩

theorem Sound.step (h : r.Sound) (hs : Step r a r' es) : r'.Sound := by
  cases hs with
  | wait id q busy => exact ⟨h.numbered, h.passes_nodup, h.held.enqueue q⟩
  | start id q idle =>
    exact h.begin (List.Sublist.refl _) (h.held.claim q _ (h.not_holds_begun _ _ _))
  | unknown | absent => exact h
  | stale pass x c found old => exact h.remove c (h.held.stale (fun _ _ => holds_only) old)
  | free pass x c found owner empty => exact h.remove c (h.held.free fun _ _ => holds_only)
  | replay pass x c found owner next t handed =>
    have ho := h.held.hand_over (l := r.begun c.id next (r.schedule.lastTicket + 1))
      (fun _ _ => holds_only) handed (fun v m hm => (h.not_holds_begun _ _ _ v m hm).elim)
    refine h.begin List.filter_sublist (ho.congr fun d u m => or_congr ?_ ?_)
    · exact holds_remove
    · rw [handed.url]
  | drop id c found => exact h.remove c (h.held.drop fun _ _ => holds_only)
  | cancel u => exact ⟨h.numbered, h.passes_nodup, h.held.cancel u⟩

theorem sound_after (as : List (Action α)) : (after as).Sound := by
  induction as using List.reverseRecOn with
  | nil => exact ⟨by simp, by simp, Held.none.congr fun _ _ _ => by simp [holds]⟩
  | append_singleton as a ih =>
    rw [after_snoc]
    exact ih.step (step_act _ a)

/-- A caller that an action starts owns its document. -/
theorem owns_of_new (h : Step r a r' es) {c : Caller} (hc : c ∈ r'.callers) :
    c ∈ r.callers ∨ r'.schedule.owns c.request.url c.ticket = true := by
  cases h with
  | wait | unknown | absent | cancel => exact Or.inl hc
  | stale | free | drop => exact Or.inl (mem_remove.mp hc).1
  | start id q idle =>
    rcases List.mem_append.mp hc with hc | hc
    · exact Or.inl hc
    · right
      rw [List.mem_singleton.mp hc]
      exact owns_iff.mpr ⟨_, pending_claim_self .., rfl⟩
  | replay pass x d found owner next t handed =>
    rcases List.mem_append.mp hc with hc | hc
    · exact Or.inl (mem_remove.mp hc).1
    · right
      rw [List.mem_singleton.mp hc]
      exact owns_iff.mpr ⟨_, handed.url ▸ handed.slot, rfl⟩

/-- Two callers own no document together. -/
theorem Sound.url_ne_of_owns (h : r.Sound) {c d : Caller} (hc : c ∈ r.callers)
    (hd : d ∈ r.callers) (hne : c ≠ d) (ho : r.schedule.owns c.request.url c.ticket = true)
    (hd' : r.schedule.owns d.request.url d.ticket = true) : c.request.url ≠ d.request.url := by
  intro hu
  obtain ⟨slot, hs, ht⟩ := owns_iff.mp ho
  obtain ⟨slot', hs', ht'⟩ := owns_iff.mp hd'
  rw [hu, hs', Option.some.injEq] at hs
  subst hs
  exact hne (h.eq_of_ticket hc hd (ht.symm.trans ht'))

/-- A running pass keeps its document until that is cancelled. -/
theorem Sound.owns_step (h : r.Sound) (hs : Step r a r' es) {c : Caller} (hc : c ∈ r.callers)
    (hc' : c ∈ r'.callers) (ho : r.schedule.owns c.request.url c.ticket = true) :
    r'.schedule.owns c.request.url c.ticket = true ∨ a = .cancel c.request.url := by
  cases hs with
  | wait | unknown | absent | stale => exact Or.inl ho
  | start id q idle =>
    left
    rw [owns_congr, ho]
    apply pending_claim_ne
    intro hu
    rw [← hu, isPending_of_owns ho] at idle
    cases idle
  | free pass x d found owner empty =>
    left
    obtain ⟨hd, _⟩ := mem_of_callerOf found
    have hu := h.url_ne_of_owns hc hd (mem_remove.mp hc').2 ho owner
    rw [owns_congr (Keyed.get?_erase_ne _ hu), ho]
  | replay pass x d found owner next t handed =>
    left
    obtain ⟨hd, _⟩ := mem_of_callerOf found
    rcases List.mem_append.mp hc' with hm | hm
    · have hu := h.url_ne_of_owns hc hd (mem_remove.mp hm).2 ho owner
      rw [owns_congr (handed.others _ hu), ho]
    · exact (h.not_begun _ _ _ (List.mem_singleton.mp hm ▸ hc)).elim
  | drop id d found =>
    left
    obtain ⟨hd, _⟩ := mem_of_find_id found
    rcases drop_cases r.schedule d.request.url d.ticket with ⟨_, he⟩ | ⟨hd', he⟩
    · simp only [he, ho]
    · have hu := h.url_ne_of_owns hc hd (mem_remove.mp hc').2 ho hd'
      simp only [he]
      rw [owns_congr (Keyed.get?_erase_ne _ hu), ho]
  | cancel u =>
    by_cases hu : c.request.url = u
    · exact Or.inr (by rw [hu])
    · left
      rw [owns_congr (pending_cancel_ne _ hu), ho]

/-- The three ways in which a document is freed. -/
theorem freed_cases (hs : Step r a r' es) {u : Url} (hp : r.schedule.isPending u = true)
    (hp' : r'.schedule.isPending u = false) :
    a = .cancel u ∨
    (∃ pass x, a = .settle pass x ∧ r.schedule.queuedFor u = [] ∧ r'.schedule.queuedFor u = []) ∨
    ∃ id c, a = .abandon id ∧ r.callers.find? (fun c => c.id = id) = some c ∧
      c.request.url = u ∧ r.schedule.owns u c.ticket = true ∧
      r'.schedule.queuedFor u = r.schedule.queuedFor u := by
  have hsame : r'.schedule.pending.get? u ≠ r.schedule.pending.get? u := by
    intro he
    rw [isPending_congr he, hp] at hp'
    cases hp'
  cases hs with
  | wait | unknown | absent | stale => exact (hsame rfl).elim
  | start id q idle =>
    by_cases hu : u = q.url
    · subst hu
      rw [hp] at idle
      cases idle
    · exact (hsame (pending_claim_ne _ hu)).elim
  | free pass x c found owner empty =>
    by_cases hu : u = c.request.url
    · subst hu
      exact Or.inr (Or.inl ⟨pass, x, rfl, empty, empty⟩)
    · exact (hsame (Keyed.get?_erase_ne _ hu)).elim
  | replay pass x c found owner next t handed =>
    by_cases hu : u = c.request.url
    · subst hu
      rw [isPending_iff.mpr ⟨_, handed.slot⟩] at hp'
      cases hp'
    · exact (hsame (handed.others u hu)).elim
  | drop id c found =>
    rcases drop_cases r.schedule c.request.url c.ticket with ⟨_, he⟩ | ⟨ho, he⟩
    · exact (hsame (by simp only [he])).elim
    · by_cases hu : u = c.request.url
      · subst hu
        exact Or.inr (Or.inr ⟨id, c, rfl, found, rfl, ho, queuedFor_drop ..⟩)
      · simp only [he] at hsame
        exact (hsame (Keyed.get?_erase_ne _ hu)).elim
  | cancel v =>
    by_cases hu : u = v
    · exact Or.inl (by rw [hu])
    · exact (hsame (pending_cancel_ne _ hu)).elim

/-- A pass that does not own its document was running when that was cancelled. -/
theorem cancelled_of_not_owns (as : List (Action α)) {c : Caller} (hc : c ∈ (after as).callers)
    (ho : (after as).schedule.owns c.request.url c.ticket = false) :
    ∃ before rest, as = before ++ .cancel c.request.url :: rest ∧ c ∈ (after before).callers := by
  induction as using List.reverseRecOn with
  | nil => cases hc
  | append_singleton as a ih =>
    rw [after_snoc] at hc ho
    have hs := step_act (after as) a
    -- A new pass owns its document, so this one is not new.
    have hold : c ∈ (after as).callers := by
      rcases owns_of_new hs hc with hold | hown
      · exact hold
      · rw [hown] at ho
        cases ho
    cases hp : (after as).schedule.owns c.request.url c.ticket with
    | false =>
      obtain ⟨before, rest, he, hm⟩ := ih hold hp
      exact ⟨before, rest ++ [a], by simp [he], hm⟩
    | true =>
      rcases (sound_after as).owns_step hs hold hc hp with hown | rfl
      · rw [hown] at ho
        cases ho
      · exact ⟨as, [], rfl, hold⟩

/-- A pass that has lost its document ends without a trace in the schedule: its caller goes, and
no request is taken up for it. -/
theorem Sound.ends_stale (h : r.Sound) {c : Caller} (hc : c ∈ r.callers)
    (ho : r.schedule.owns c.request.url c.ticket = false) :
    (∀ x : Option α, r.act (.settle c.pass x) =
      (r.remove c, [.returned c.id (.done (x.getD default))])) ∧
    ∀ id, r.callers.find? (fun d => d.id = id) = some c →
      r.act (α := α) (.abandon id) = (r.remove c, [.returned id .abandoned]) := by
  refine ⟨?_, ?_⟩
  · intro x
    have hr : (r.remove c).schedule.release c.request.url c.ticket = (r.schedule, none) := by
      change r.schedule.release c.request.url c.ticket = _
      simp [release, ho]
    simp only [act, h.callerOf hc, hr]
    rfl
  · intro id hid
    have hd : r.schedule.drop c.request.url c.ticket = r.schedule := by simp [Schedule.drop, ho]
    simp only [act, hid, hd, (mem_of_find_id hid).2]
    rfl

theorem Sound.countP_le_one (h : r.Sound) {p : Caller → Bool}
    (hp : ∀ c ∈ r.callers, ∀ d ∈ r.callers, p c = true → p d = true → c = d) :
    r.callers.countP p ≤ 1 := by
  rw [List.countP_eq_length_filter]
  have hn : (r.callers.filter p).Nodup := (List.Nodup.of_map _ h.passes_nodup).filter p
  match hf : r.callers.filter p with
  | [] | [_] => simp
  | c :: d :: cs =>
    have hc : c ∈ r.callers.filter p := by simp [hf]
    have hd : d ∈ r.callers.filter p := by simp [hf]
    rw [List.mem_filter] at hc hd
    have he := hp c hc.1 d hd.1 hc.2 hd.2
    simp [hf, he] at hn

/-- In every state that a run reaches, a document that is being linted belongs to exactly one
caller, which runs a pass for it under the recorded ticket. Each other pass for it was running
when it was cancelled, so there is none if it never was; and such a pass ends without touching the
schedule. -/
theorem slot_ownership (as : List (Action α)) (u : Url) :
    (∀ slot, (after as).schedule.pending.get? u = some slot →
      (after as).callers.countP (fun c => c.request.url = u ∧ c.ticket = slot.ticket) = 1) ∧
    (∀ c ∈ (after as).callers, c.request.url = u →
      (after as).schedule.owns u c.ticket = false →
      ∃ before rest, as = before ++ .cancel u :: rest ∧ c ∈ (after before).callers) ∧
    (.cancel u ∉ as → (after as).callers.countP (fun c => c.request.url = u) ≤ 1) ∧
    ∀ c ∈ (after as).callers, c.request.url = u →
      (after as).schedule.owns u c.ticket = false →
      (∀ x : Option α, (after as).act (.settle c.pass x) =
        ((after as).remove c, [.returned c.id (.done (x.getD default))])) ∧
      ∀ id, (after as).callers.find? (fun d => d.id = id) = some c →
        (after as).act (α := α) (.abandon id) = ((after as).remove c, [.returned id .abandoned]) := by
  have h := sound_after as
  refine ⟨?_, ?_, ?_, ?_⟩
  · intro slot hs
    obtain ⟨c, hc, hu, ht⟩ := h.held.taken u slot hs
    apply Nat.le_antisymm
    · apply h.countP_le_one
      intro d hd e he hpd hpe
      simp only [decide_eq_true_eq] at hpd hpe
      exact h.eq_of_ticket hd he (hpd.2.trans hpe.2.symm)
    · exact List.countP_pos_iff.mpr ⟨c, hc, by simp [hu, ht]⟩
  · rintro c hc rfl ho
    exact cancelled_of_not_owns as hc ho
  · intro hn
    apply h.countP_le_one
    intro c hc d hd hpc hpd
    simp only [decide_eq_true_eq] at hpc hpd
    have howns : ∀ e ∈ (after as).callers, e.request.url = u →
        (after as).schedule.owns e.request.url e.ticket = true := by
      rintro e he rfl
      cases ho : (after as).schedule.owns e.request.url e.ticket with
      | true => rfl
      | false =>
        obtain ⟨before, rest, hr, _⟩ := cancelled_of_not_owns as he ho
        exact (hn (by simp [hr])).elim
    by_contra hne
    exact h.url_ne_of_owns hc hd hne (howns c hc hpc) (howns d hd hpd) (hpc.trans hpd.symm)
  · rintro c hc rfl ho
    exact h.ends_stale hc ho

end Considerate.Schedule.Run
