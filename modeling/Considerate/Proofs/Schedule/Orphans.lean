import Considerate.Proofs.Schedule.Slots
import Considerate.Range

namespace Considerate.Schedule.Run

variable {α : Type} [Inhabited α] {r r' : Run} {a : Action α} {es : List (Effect α)} {u : Url}

/-- Requests wait for the document, and no caller will take them up. -/
def Orphaned (r : Run) (u : Url) : Prop :=
  r.schedule.queuedFor u ≠ [] ∧ r.schedule.isPending u = false

/-- A caller is dropped that owns a document for which requests wait. -/
def Leaves (r : Run) (u : Url) (a : Action α) : Prop :=
  ∃ id c, a = .abandon id ∧ r.callers.find? (fun c => c.id = id) = some c ∧
    c.request.url = u ∧ r.schedule.owns u c.ticket = true ∧ r.schedule.queuedFor u ≠ []

/-- A request for a document and its cancellation see to the requests that wait for it. -/
def SeesTo (u : Url) (a : Action α) : Prop :=
  a = .cancel u ∨ ∃ id q, a = .validate id q ∧ q.url = u

/-- A document gets orphaned only if its owner is dropped. -/
theorem leaves_of_orphaned (hs : Step r a r' es) (h : ¬ r.Orphaned u) (h' : r'.Orphaned u) :
    r.Leaves u a := by
  obtain ⟨hq', hp'⟩ := h'
  cases hp : r.schedule.isPending u with
  | true =>
    rcases freed_cases hs hp hp' with rfl | ⟨_, _, _, _, hn⟩ | ⟨id, c, rfl, hf, hu, ho, he⟩
    · cases hs
      exact (hq' (queuedFor_cancel_self ..)).elim
    · exact (hq' hn).elim
    · exact ⟨id, c, rfl, hf, hu, ho, he ▸ hq'⟩
  | false =>
    have hempty : r.schedule.queuedFor u = [] := by
      by_contra hne
      exact h ⟨hne, hp⟩
    exfalso
    apply hq'
    cases hs with
    | wait id q busy =>
      have hne : q.url ≠ u := by
        rintro rfl
        rw [hp] at busy
        cases busy
      simp [queuedFor_enqueue, hne, hempty]
    | start | unknown | absent | stale | free => exact hempty
    | replay pass x c found owner next t handed =>
      by_cases hu : u = c.request.url
      · subst hu
        rw [isPending_of_owns owner] at hp
        cases hp
      · exact (handed.others_wait u hu).trans hempty
    | drop id c found => exact (queuedFor_drop ..).trans hempty
    | cancel v =>
      by_cases hu : u = v
      · subst hu
        exact queuedFor_cancel_self ..
      · exact (queuedFor_cancel_ne _ hu).trans hempty

theorem orphaned_of_leaves (hs : Step r a r' es) (h : r.Leaves u a) : r'.Orphaned u := by
  obtain ⟨id, c, rfl, hf, rfl, ho, hq⟩ := h
  cases hs with
  | absent _ hn =>
    rw [hf] at hn
    cases hn
  | drop _ d hd =>
    rw [hf, Option.some.injEq] at hd
    subst hd
    have he : r.schedule.drop c.request.url c.ticket =
        { r.schedule with pending := r.schedule.pending.erase c.request.url } := by
      simp [Schedule.drop, ho]
    refine ⟨?_, ?_⟩
    · rw [queuedFor_drop]
      exact hq
    · simp only [he]
      exact not_isPending_iff.mpr (Keyed.get?_erase_self ..)

/-- Nobody but a new caller, or a cancellation, sees to orphaned requests. -/
theorem Orphaned.step (h : r.Orphaned u) (hs : Step r a r' es) (ha : ¬ SeesTo u a) :
    r'.Orphaned u := by
  obtain ⟨hq, hp⟩ := h
  have hne : ∀ c : Caller, r.schedule.owns c.request.url c.ticket = true → u ≠ c.request.url := by
    rintro c ho rfl
    rw [isPending_of_owns ho] at hp
    cases hp
  cases hs with
  | wait id q busy =>
    refine ⟨?_, hp⟩
    rw [queuedFor_enqueue]
    exact List.append_ne_nil_of_left_ne_nil hq _
  | start id q idle =>
    refine ⟨hq, ?_⟩
    rw [isPending_congr (pending_claim_ne _ ?_), hp]
    rintro rfl
    exact ha (Or.inr ⟨id, q, rfl, rfl⟩)
  | unknown | absent | stale => exact ⟨hq, hp⟩
  | free pass x c found owner empty =>
    refine ⟨hq, ?_⟩
    rw [isPending_congr (Keyed.get?_erase_ne _ (hne c owner)), hp]
  | replay pass x c found owner next t handed =>
    refine ⟨?_, ?_⟩
    · rw [handed.others_wait u (hne c owner)]
      exact hq
    · rw [isPending_congr (handed.others u (hne c owner)), hp]
  | drop id c found =>
    refine ⟨(queuedFor_drop ..).trans_ne hq, ?_⟩
    rcases drop_cases r.schedule c.request.url c.ticket with ⟨_, he⟩ | ⟨ho, he⟩
    · simpa only [he] using hp
    · simp only [he]
      rw [isPending_congr (Keyed.get?_erase_ne _ (hne c ho)), hp]
  | cancel v =>
    have hv : u ≠ v := by
      rintro rfl
      exact ha (Or.inl rfl)
    refine ⟨?_, ?_⟩
    · rw [queuedFor_cancel_ne _ hv]
      exact hq
    · rw [isPending_congr (pending_cancel_ne _ hv), hp]

theorem not_orphaned_of_seesTo (hs : Step r a r' es) (ha : SeesTo u a) : ¬ r'.Orphaned u := by
  rintro ⟨hq, hp⟩
  rcases ha with rfl | ⟨id, q, rfl, rfl⟩
  · cases hs
    exact hq (queuedFor_cancel_self ..)
  · cases hs with
    | wait _ _ busy =>
      have hb : (r.schedule.enqueue q).isPending q.url = true := busy
      simp only [hb] at hp
      cases hp
    | start _ _ idle =>
      simp only [isPending_iff.mpr ⟨_, pending_claim_self ..⟩] at hp
      cases hp

/-- A document is orphaned exactly if at some time the caller that owned it was dropped while
requests waited for it, and since then nobody has asked for the document or cancelled it. -/
theorem orphaned_iff_dropped (as : List (Action α)) (u : Url) :
    ((after as).schedule.queuedFor u ≠ [] ∧ (after as).schedule.isPending u = false) ↔
      ∃ before id rest c, as = before ++ .abandon id :: rest ∧
        (after before).callers.find? (fun c => c.id = id) = some c ∧ c.request.url = u ∧
        (after before).schedule.owns u c.ticket = true ∧
        (after before).schedule.queuedFor u ≠ [] ∧
        ∀ a ∈ rest, a ≠ .cancel u ∧ ∀ i q, a = .validate i q → q.url ≠ u := by
  change (after as).Orphaned u ↔ _
  induction as using List.reverseRecOn with
  | nil =>
    constructor
    · rintro ⟨hq, _⟩
      exact (hq rfl).elim
    · rintro ⟨before, id, rest, c, he, _⟩
      cases before <;> cases he
  | append_singleton as a ih =>
    have hs := step_act (after as) a
    rw [after_snoc]
    constructor
    · intro h
      by_cases hold : (after as).Orphaned u
      · obtain ⟨before, id, rest, c, rfl, hf, hu, ho, hq, hrest⟩ := ih.mp hold
        refine ⟨before, id, rest ++ [a], c, by simp, hf, hu, ho, hq, ?_⟩
        intro b hb
        rcases List.mem_append.mp hb with hb | hb
        · exact hrest b hb
        · rw [List.mem_singleton.mp hb]
          refine ⟨?_, ?_⟩
          · rintro rfl
            exact not_orphaned_of_seesTo hs (Or.inl rfl) h
          · rintro i q rfl hqu
            exact not_orphaned_of_seesTo hs (Or.inr ⟨i, q, rfl, hqu⟩) h
      · obtain ⟨id, c, rfl, hf, hu, ho, hq⟩ := leaves_of_orphaned hs hold h
        exact ⟨as, id, [], c, rfl, hf, hu, ho, hq, by simp⟩
    · rintro ⟨before, id, rest, c, he, hf, hu, ho, hq, hrest⟩
      rcases List.eq_nil_or_concat rest with rfl | ⟨rest, b, rfl⟩
      · obtain ⟨rfl, hab⟩ := List.append_inj' he rfl
        cases hab
        exact orphaned_of_leaves hs ⟨id, c, rfl, hf, hu, ho, hq⟩
      · rw [List.concat_eq_append, ← List.cons_append, ← List.append_assoc] at he
        obtain ⟨rfl, hab⟩ := List.append_inj' he rfl
        cases hab
        have hold := ih.mpr ⟨before, id, rest, c, rfl, hf, hu, ho, hq,
          fun b hb => hrest b (by simp [hb])⟩
        obtain ⟨hc, hv⟩ := hrest a (by simp)
        apply hold.step hs
        rintro (rfl | ⟨i, q, rfl, hqu⟩)
        · exact hc rfl
        · exact hv i q rfl hqu

/-- When the caller that lints a document is dropped, the request of another one is left. -/
theorem orphaned_after_drop :
    let u : Url := { scheme := "file", path := .segments ["a.md"] }
    let r := after (α := List Edit)
      [.validate 0 ⟨u, {}⟩, .validate 1 ⟨u, { fix := true }⟩, .abandon 0]
    r.schedule.queuedFor u = [{ fix := true }] ∧ r.schedule.isPending u = false := by
  decide

end Considerate.Schedule.Run
