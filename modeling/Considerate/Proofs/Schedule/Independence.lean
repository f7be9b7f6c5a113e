import Considerate.Proofs.Schedule.Replay
import Mathlib.Data.List.Forall2

namespace Considerate.Schedule

variable {α : Type} [Inhabited α]

/-- The action in a run that has of all passes only the given ones: each is called by its place. -/
def Action.recount (passes : List Nat) : Action α → Action α
  | .settle n x => .settle (passes.idxOf n) x
  | a => a

def Effect.recount (passes : List Nat) : Effect α → Effect α
  | .started n q => .started (passes.idxOf n) q
  | e => e

def Effect.returned? : Effect α → Option (Nat × Outcome α)
  | .returned id o => some (id, o)
  | .started _ _ => none

def Effect.passFor? (u : Url) : Effect α → Option Nat
  | .started n q => if q.url = u then some n else none
  | .returned _ _ => none

namespace Run

def document? (r : Run) : Action α → Option Url
  | .validate _ q => some q.url
  | .settle pass _ => (r.callerOf pass).map fun c => c.request.url
  | .abandon id => (r.callers.find? fun c => c.id = id).map fun c => c.request.url
  | .cancel u => some u

def passesFor (u : Url) (r : Run) (a : Action α) : List Nat :=
  (r.act a).2.filterMap (Effect.passFor? u)

def passesIn (u : Url) (as : List (Action α)) : List Nat := gather (passesFor u) {} as

def onlyFrom (u : Url) (before : List (Action α)) : List (Action α) → List (Action α)
  | [] => []
  | a :: as =>
    (if (after before).document? a = some u then [a.recount (passesIn u before)] else []) ++
      onlyFrom u (before ++ [a]) as

/-- The run of the document alone: the actions that are about others are left out. -/
def only (u : Url) (as : List (Action α)) : List (Action α) := onlyFrom u [] as

@[simp] theorem only_nil (u : Url) : only u ([] : List (Action α)) = [] := rfl

theorem onlyFrom_snoc (u : Url) (before as : List (Action α)) (a : Action α) :
    onlyFrom u before (as ++ [a]) = onlyFrom u before as ++
      if (after (before ++ as)).document? a = some u
        then [a.recount (passesIn u (before ++ as))] else [] := by
  induction as generalizing before with
  | nil => simp [onlyFrom]
  | cons b as ih => simp [onlyFrom, ih]

theorem only_snoc (u : Url) (as : List (Action α)) (a : Action α) :
    only u (as ++ [a]) = only u as ++
      if (after as).document? a = some u then [a.recount (passesIn u as)] else [] :=
  onlyFrom_snoc u [] as a

theorem passesIn_snoc (u : Url) (as : List (Action α)) (a : Action α) :
    passesIn u (as ++ [a]) = passesIn u as ++ passesFor u (after as) a := by
  simpa [passesIn] using gather_after_snoc (passesFor u) [] as a

/-- Two callers that do the same for the document in two runs: the passes that the one run has
started for it are the `passes` of the other. -/
structure Twin (u : Url) (passes : List Nat) (r s : Run) (c d : Caller) : Prop where
  id : d.id = c.id
  request : d.request = c.request
  pass : passes[d.pass]? = some c.pass
  owns : s.schedule.owns u d.ticket = r.schedule.owns u c.ticket

def callersFor (u : Url) (r : Run) : List Caller := r.callers.filter fun c => c.request.url = u

/-- The run `s` has of the run `r` what is about the document, and nothing else. -/
structure Mirrors (u : Url) (passes : List Nat) (r s : Run) : Prop where
  pending : s.schedule.isPending u = r.schedule.isPending u
  queued : s.schedule.queuedFor u = r.schedule.queuedFor u
  started : s.passes = passes.length
  nodup : passes.Nodup
  below : ∀ n ∈ passes, n < r.passes
  callers : List.Forall₂ (Twin u passes r s) (r.callersFor u) s.callers

variable {u : Url} {passes : List Nat} {r r' s s' : Run} {a : Action α} {es : List (Effect α)}
  {c d : Caller}

theorem Twin.congr (h : Twin u passes r s c d)
    (hr : r'.schedule.pending.get? u = r.schedule.pending.get? u)
    (hs : s'.schedule.pending.get? u = s.schedule.pending.get? u) : Twin u passes r' s' c d where
  id := h.id
  request := h.request
  pass := h.pass
  owns := by rw [owns_congr hr, owns_congr hs, h.owns]

/-- A twin is known by its place among the passes. -/
theorem Twin.pass_iff (h : Twin u passes r s c d) (hn : passes.Nodup) (n : Nat) :
    c.pass = n ↔ d.pass = passes.idxOf n := by
  obtain ⟨hlt, he⟩ := List.getElem?_eq_some_iff.mp h.pass
  have hd : passes.idxOf c.pass = d.pass := by
    rw [← he]
    exact hn.idxOf_getElem _ hlt
  rw [← hd, List.idxOf_inj (he ▸ List.getElem_mem hlt)]

/-- A caller for the document that is found in the one run has a twin that is found in the other. -/
theorem find?_of_forall₂ {R : Caller → Caller → Prop} {cs ds : List Caller} {p q : Caller → Bool}
    (h : List.Forall₂ R (cs.filter fun c => c.request.url = u) ds)
    (hpq : ∀ c d, R c d → p c = q d) (hf : cs.find? p = some c) (hu : c.request.url = u) :
    ∃ d, ds.find? q = some d ∧ R c d := by
  induction cs generalizing ds with
  | nil => cases hf
  | cons e cs ih =>
    by_cases he : e.request.url = u
    · rw [List.filter_cons_of_pos (by simp [he])] at h
      cases h with
      | @cons _ d _ ds hR h =>
        cases hp : p e with
        | true =>
          rw [List.find?_cons_of_pos hp, Option.some.injEq] at hf
          subst hf
          exact ⟨d, by rw [List.find?_cons_of_pos (hpq _ _ hR ▸ hp)], hR⟩
        | false =>
          rw [List.find?_cons_of_neg (by simp [hp])] at hf
          obtain ⟨d', hd', hR'⟩ := ih h hf
          exact ⟨d', by rw [List.find?_cons_of_neg (by simp [← hpq _ _ hR, hp]), hd'], hR'⟩
    · rw [List.filter_cons_of_neg (by simp [he])] at h
      have hp : ¬ p e = true := by
        intro hp
        rw [List.find?_cons_of_pos hp, Option.some.injEq] at hf
        exact he (hf ▸ hu)
      rw [List.find?_cons_of_neg hp] at hf
      exact ih h hf

theorem Mirrors.callerOf (h : Mirrors u passes r s) {n : Nat} (hf : r.callerOf n = some c)
    (hu : c.request.url = u) :
    ∃ d, s.callerOf (passes.idxOf n) = some d ∧ Twin u passes r s c d :=
  find?_of_forall₂ h.callers (fun _ _ ht => decide_eq_decide.mpr (ht.pass_iff h.nodup n)) hf hu

theorem Mirrors.find_id (h : Mirrors u passes r s) {id : Nat}
    (hf : r.callers.find? (fun c => c.id = id) = some c) (hu : c.request.url = u) :
    ∃ d, s.callers.find? (fun d => d.id = id) = some d ∧ Twin u passes r s c d :=
  find?_of_forall₂ h.callers (fun _ _ ht => by rw [ht.id]) hf hu

theorem Sound.remove_eq (h : r.Sound) (hc : c ∈ r.callers) :
    (r.remove c).callers = r.callers.filter fun e => ¬ e.pass = c.pass := by
  apply List.filter_congr
  intro e he
  refine decide_eq_decide.mpr (not_congr ⟨fun h => h ▸ rfl, ?_⟩)
  exact List.inj_on_of_nodup_map h.passes_nodup he hc

theorem Mirrors.remove (h : Mirrors u passes r s) (hr : r.Sound) (hs : s.Sound) (hc : c ∈ r.callers)
    (hd : d ∈ s.callers) (ht : Twin u passes r s c d) :
    List.Forall₂ (Twin u passes r s) ((r.remove c).callersFor u) (s.remove d).callers := by
  rw [callersFor, hr.remove_eq hc, hs.remove_eq hd, List.filter_comm]
  refine List.rel_filter ?_ h.callers
  intro e f he
  simp only [decide_eq_true_eq, he.pass_iff h.nodup, (ht.pass_iff h.nodup c.pass).mp rfl]

/-- An action that is about another document changes nothing for this one. -/
theorem Step.frame (hs : Step r a r' es) (hd : r.document? a ≠ some u) :
    r'.schedule.pending.get? u = r.schedule.pending.get? u ∧
      r'.schedule.queuedFor u = r.schedule.queuedFor u ∧
      r'.callersFor u = r.callersFor u ∧
      (∀ q ∈ es.filterMap Effect.started?, q.url ≠ u) ∧
      r.passes ≤ r'.passes := by
  have leaves : ∀ c, c.request.url ≠ u → (r.remove c).callersFor u = r.callersFor u := by
    intro c hc
    rw [callersFor, remove, List.filter_filter]
    apply List.filter_congr
    intro e _
    by_cases he : e = c <;> simp [he, hc]
  have comes : ∀ cs c, c.request.url ≠ u → callersFor u { r with callers := cs ++ [c] } =
      callersFor u { r with callers := cs } := by
    intro cs c hc
    simp [callersFor, hc]
  cases hs with
  | wait id q busy =>
    have hu : q.url ≠ u := by simpa [document?] using hd
    refine ⟨rfl, ?_, rfl, by simp [Effect.started?], Nat.le_refl _⟩
    simp [queuedFor_enqueue, hu]
  | start id q idle =>
    have hu : q.url ≠ u := by simpa [document?] using hd
    exact ⟨pending_claim_ne _ (Ne.symm hu), rfl, comes _ _ hu, by simp [Effect.started?, hu],
      Nat.le_succ _⟩
  | unknown | absent => exact ⟨rfl, rfl, rfl, by simp, Nat.le_refl _⟩
  | stale pass x c found old =>
    have hu : c.request.url ≠ u := by simpa [document?, found] using hd
    exact ⟨rfl, rfl, leaves c hu, by simp [Effect.started?], Nat.le_refl _⟩
  | free pass x c found owner empty =>
    have hu : c.request.url ≠ u := by simpa [document?, found] using hd
    exact ⟨Keyed.get?_erase_ne _ (Ne.symm hu), rfl, leaves c hu, by simp [Effect.started?],
      Nat.le_refl _⟩
  | replay pass x c found owner next t handed =>
    have hu : c.request.url ≠ u := by simpa [document?, found] using hd
    have hn : next.url ≠ u := by rwa [handed.url]
    exact ⟨handed.others u (Ne.symm hu), handed.others_wait u (Ne.symm hu),
      (comes _ _ hn).trans (leaves c hu), by simp [Effect.started?, hn], Nat.le_succ _⟩
  | drop id c found =>
    have hu : c.request.url ≠ u := by simpa [document?, found] using hd
    refine ⟨?_, queuedFor_drop .., leaves c hu, by simp [Effect.started?], Nat.le_refl _⟩
    rcases drop_cases r.schedule c.request.url c.ticket with ⟨_, he⟩ | ⟨_, he⟩
    · rw [he]
    · rw [he]
      exact Keyed.get?_erase_ne _ (Ne.symm hu)
  | cancel v =>
    have hu : v ≠ u := by simpa [document?] using hd
    exact ⟨pending_cancel_ne _ (Ne.symm hu), queuedFor_cancel_ne _ (Ne.symm hu), rfl, by simp,
      Nat.le_refl _⟩

theorem Step.no_pass (hs : Step r a r' es) (hd : r.document? a ≠ some u) :
    es.filterMap (Effect.passFor? u) = [] := by
  obtain ⟨-, -, -, hn, -⟩ := hs.frame hd
  rw [List.filterMap_eq_nil_iff]
  intro e he
  cases e with
  | started n q => exact if_neg (hn q (List.mem_filterMap.mpr ⟨_, he, rfl⟩))
  | returned id o => rfl

theorem Mirrors.frame (h : Mirrors u passes r s) (hs : Step r a r' es)
    (hd : r.document? a ≠ some u) : Mirrors u passes r' s := by
  obtain ⟨hp, hq, hc, _, hn⟩ := hs.frame hd
  refine ⟨?_, h.queued.trans hq.symm, h.started, h.nodup, ?_, ?_⟩
  · rw [isPending_congr hp, h.pending]
  · intro n hm
    exact Nat.lt_of_lt_of_le (h.below n hm) hn
  · rw [hc]
    exact h.callers.imp fun c d ht => ht.congr hp rfl

theorem Sound.ticket_le (h : r.Sound) (hc : c ∈ r.callers) : c.ticket ≤ r.schedule.lastTicket :=
  h.held.issued c _ _ ⟨hc, rfl, rfl⟩

/-- A ticket that has been given out does not own a document that has gone to a new pass. -/
theorem not_owns_of_slot {t : Schedule} {o : Options} {ticket last : Nat}
    (ht : t.pending.get? u = some ⟨o, last + 1⟩) (h : ticket ≤ last) : t.owns u ticket = false := by
  have hne : last + 1 ≠ ticket := by omega
  simp [owns, ht, hne]

/-- Twins among which two callers begin passes that get the document are twins still. -/
theorem Mirrors.begin (h : Mirrors u passes r s) (hr : r.Sound) (hs : s.Sound)
    {cs ds : List Caller} {t t' : Schedule} {q : Request} {id : Nat}
    (hcs : List.Forall₂ (Twin u passes r s) (cs.filter fun c => c.request.url = u) ds)
    (hc : ∀ c ∈ cs, c ∈ r.callers) (hd : ∀ d ∈ ds, d ∈ s.callers) (hu : q.url = u)
    (ht : t.pending.get? u = some ⟨q.options, r.schedule.lastTicket + 1⟩)
    (ht' : t'.pending.get? u = some ⟨q.options, s.schedule.lastTicket + 1⟩)
    (hq : t'.queuedFor u = t.queuedFor u) :
    Mirrors u (passes ++ [r.passes])
      ⟨t, cs ++ [r.begun id q (r.schedule.lastTicket + 1)], r.passes + 1⟩
      ⟨t', ds ++ [s.begun id q (s.schedule.lastTicket + 1)], s.passes + 1⟩ where
  pending := (isPending_iff.mpr ⟨_, ht'⟩).trans (isPending_iff.mpr ⟨_, ht⟩).symm
  queued := hq
  started := by simp [h.started]
  nodup := List.nodup_append.mpr ⟨h.nodup, by simp, by
    intro n hn m hm
    have := h.below n hn
    simp only [List.mem_singleton] at hm
    omega⟩
  below n hn := by
    rcases List.mem_append.mp hn with hn | hn
    · exact Nat.lt_succ_of_lt (h.below n hn)
    · rw [List.mem_singleton.mp hn]
      exact Nat.lt_succ_self _
  callers := by
    rw [callersFor, List.filter_append, List.filter_cons_of_pos (by simp [begun, hu])]
    apply List.rel_append
    · rw [List.forall₂_iff_zip] at hcs ⊢
      refine ⟨hcs.1, fun {c d} hm => ?_⟩
      have old := hcs.2 hm
      obtain ⟨hmc, hmd⟩ := List.of_mem_zip hm
      refine ⟨old.id, old.request, ?_, ?_⟩
      · rw [List.getElem?_append_left (List.getElem?_eq_some_iff.mp old.pass).1, old.pass]
      · rw [not_owns_of_slot ht (hr.ticket_le (hc c (List.mem_of_mem_filter hmc))),
          not_owns_of_slot ht' (hs.ticket_le (hd d hmd))]
    · refine .cons ⟨rfl, rfl, by simp [begun, h.started], ?_⟩ .nil
      exact (owns_iff.mpr ⟨_, ht', rfl⟩).trans (owns_iff.mpr ⟨_, ht, rfl⟩).symm

/-- The mirror image when the document loses or keeps its slot, but no pass begins. -/
theorem Mirrors.rest (h : Mirrors u passes r s) {t t' : Schedule} {cs ds : List Caller}
    (hcs : List.Forall₂ (Twin u passes r s) (cs.filter fun c => c.request.url = u) ds)
    (ht : t.pending.get? u = r.schedule.pending.get? u ∧
        t'.pending.get? u = s.schedule.pending.get? u ∨
      t.pending.get? u = none ∧ t'.pending.get? u = none)
    (hq : t'.queuedFor u = t.queuedFor u) :
    Mirrors u passes ⟨t, cs, r.passes⟩ ⟨t', ds, s.passes⟩ := by
  rcases ht with ⟨ht, ht'⟩ | ⟨ht, ht'⟩
  · refine ⟨?_, hq, h.started, h.nodup, h.below, hcs.imp fun c d hcd => hcd.congr ht ht'⟩
    rw [isPending_congr ht, isPending_congr ht', h.pending]
  · refine ⟨?_, hq, h.started, h.nodup, h.below, hcs.imp fun c d hcd => ?_⟩
    · rw [not_isPending_iff.mpr ht, not_isPending_iff.mpr ht']
    · exact ⟨hcd.id, hcd.request, hcd.pass, by simp [owns, ht, ht']⟩

omit [Inhabited α] in
theorem passFor?_returned (u : Url) (id : Nat) (o : Outcome α) :
    [Effect.returned id o].filterMap (Effect.passFor? u) = [] := rfl

omit [Inhabited α] in
/-- The next number goes to the pass at the next place. -/
theorem Mirrors.recount_started (h : Mirrors u passes r s) {q : Request} (hu : q.url = u) :
    [Effect.started (α := α) r.passes q].filterMap (Effect.passFor? u) = [r.passes] ∧
      Effect.recount (α := α) (passes ++ [r.passes]) (.started r.passes q) = .started s.passes q := by
  refine ⟨by simp [Effect.passFor?, hu], ?_⟩
  have hn : r.passes ∉ passes := fun hm => Nat.lt_irrefl _ (h.below _ hm)
  simp [Effect.recount, List.idxOf_append_of_notMem hn, h.started]

/-- What comes of the end of a pass whose caller is known. -/
theorem Step.of_settle {n : Nat} {x : Option α} (hs : Step r (.settle n x) r' es)
    (found : r.callerOf n = some c) :
    (r.schedule.owns c.request.url c.ticket = false ∧ r' = r.remove c ∧
      es = [.returned c.id (.done (x.getD default))]) ∨
    (r.schedule.owns c.request.url c.ticket = true ∧ r.schedule.queuedFor c.request.url = [] ∧
      r' = { r.remove c with
        schedule := { r.schedule with pending := r.schedule.pending.erase c.request.url } } ∧
      es = [.returned c.id (.done (x.getD default))]) ∨
    (r.schedule.owns c.request.url c.ticket = true ∧
      ∃ next t, HandedOver r.schedule c.request.url next t ∧
        r' = ⟨t, (r.remove c).callers ++ [r.begun c.id next (r.schedule.lastTicket + 1)],
          r.passes + 1⟩ ∧ es = [.started r.passes next]) := by
  cases hs with
  | unknown _ _ missing =>
    rw [found] at missing
    cases missing
  | stale _ _ d found' old =>
    cases found.symm.trans found'
    exact Or.inl ⟨old, rfl, rfl⟩
  | free _ _ d found' owner empty =>
    cases found.symm.trans found'
    exact Or.inr (Or.inl ⟨owner, empty, rfl, rfl⟩)
  | replay _ _ d found' owner next t handed =>
    cases found.symm.trans found'
    exact Or.inr (Or.inr ⟨owner, next, t, handed, rfl, rfl⟩)

/-- When a pass for the document ends in the one run, its twin does so in the other. -/
theorem Mirrors.settle (h : Mirrors u passes r s) (hr : r.Sound) (hs : s.Sound) {n : Nat}
    {x : Option α} (hst : Step r (.settle n x) r' es) (found : r.callerOf n = some c)
    (hu : c.request.url = u) {es' : List (Effect α)}
    (hst' : Step s (.settle (passes.idxOf n) x) s' es') :
    Mirrors u (passes ++ es.filterMap (Effect.passFor? u)) r' s' ∧
      es' = es.map (Effect.recount (passes ++ es.filterMap (Effect.passFor? u))) := by
  subst hu
  obtain ⟨d, found', ht⟩ := h.callerOf found rfl
  have left := h.remove hr hs (mem_of_callerOf found).1 (mem_of_callerOf found').1 ht
  have ends := hst'.of_settle found'
  rw [ht.request, ht.owns, ht.id, h.queued] at ends
  rcases hst.of_settle found with ⟨ho, rfl, rfl⟩ | ⟨ho, hq, rfl, rfl⟩ | ⟨ho, next, t, handed, rfl, rfl⟩
  · rw [ho] at ends
    obtain ⟨_, rfl, rfl⟩ | ⟨ho', _⟩ | ⟨ho', _⟩ := ends
    · rw [passFor?_returned, List.append_nil]
      exact ⟨h.rest left (Or.inl ⟨rfl, rfl⟩) h.queued, rfl⟩
    · cases ho'
    · cases ho'
  · rw [ho, hq] at ends
    obtain ⟨ho', _⟩ | ⟨_, _, rfl, rfl⟩ | ⟨_, _, _, handed', _⟩ := ends
    · cases ho'
    · rw [passFor?_returned, List.append_nil]
      refine ⟨h.rest left (Or.inr ⟨?_, ?_⟩) h.queued, rfl⟩
      · exact Keyed.get?_erase_self ..
      · exact Keyed.get?_erase_self ..
    · have hf := handed'.first
      rw [h.queued, hq] at hf
      cases hf
  · rw [ho, handed.first] at ends
    obtain ⟨ho', _⟩ | ⟨_, hq, _⟩ | ⟨_, next', t', handed', rfl, rfl⟩ := ends
    · cases ho'
    · cases hq
    · -- Both runs take up the same request, the first that waits.
      have hf := handed'.first
      rw [h.queued, handed.first, List.cons.injEq] at hf
      have hn : next' = next := by
        cases next
        cases next'
        rw [Request.mk.injEq]
        exact ⟨handed'.url.trans handed.url.symm, hf.1.symm⟩
      subst hn
      obtain ⟨hp, he⟩ := h.recount_started (α := α) handed.url
      rw [hp, List.map_singleton, he]
      refine ⟨?_, rfl⟩
      exact h.begin hr hs left (fun e he => (mem_remove.mp he).1) (fun e he => (mem_remove.mp he).1)
        handed.url handed.slot handed'.slot hf.2.symm

/-- An action that is about the document does the same to it in both runs. -/
theorem Mirrors.step (h : Mirrors u passes r s) (hr : r.Sound) (hs : s.Sound)
    (hst : Step r a r' es) (hd : r.document? a = some u) {es' : List (Effect α)}
    (hst' : Step s (a.recount passes) s' es') :
    Mirrors u (passes ++ es.filterMap (Effect.passFor? u)) r' s' ∧
      es' = es.map (Effect.recount (passes ++ es.filterMap (Effect.passFor? u))) := by
  cases a with
  | settle pass x =>
    obtain ⟨c, found, hu⟩ := Option.map_eq_some_iff.mp hd
    exact h.settle hr hs hst found hu hst'
  | validate id q =>
    rw [document?, Option.some.injEq] at hd
    subst hd
    cases hst with
    | wait _ _ busy =>
      cases hst' with
      | start _ _ idle =>
        rw [h.pending, busy] at idle
        cases idle
      | wait _ _ _ =>
        rw [passFor?_returned, List.append_nil]
        refine ⟨h.rest h.callers (Or.inl ⟨rfl, rfl⟩) ?_, rfl⟩
        simp only [queuedFor_enqueue, ← mem_queuedFor, h.queued]
    | start _ _ idle =>
      obtain ⟨hp, he⟩ := h.recount_started (α := α) (q := q) rfl
      rw [hp, List.map_singleton, he]
      cases hst' with
      | wait _ _ busy =>
        rw [h.pending, idle] at busy
        cases busy
      | start _ _ _ =>
        refine ⟨?_, rfl⟩
        exact h.begin hr hs h.callers (fun _ hm => hm) (fun _ hm => hm) rfl
          (pending_claim_self ..) (pending_claim_self ..) h.queued
  | abandon id =>
    obtain ⟨c, found, hu⟩ := Option.map_eq_some_iff.mp hd
    subst hu
    obtain ⟨d, found', ht⟩ := h.find_id found rfl
    cases hst with
    | absent _ missing =>
      rw [found] at missing
      cases missing
    | drop _ _ hf =>
      cases found.symm.trans hf
      cases hst' with
      | absent _ missing =>
        rw [found'] at missing
        cases missing
      | drop _ _ hf' =>
        cases found'.symm.trans hf'
        have left := h.remove hr hs (mem_of_find_id found).1 (mem_of_find_id found').1 ht
        rw [passFor?_returned, List.append_nil, ht.request, ht.id]
        refine ⟨h.rest left ?_ ?_, rfl⟩
        · cases ho : r.schedule.owns c.request.url c.ticket with
          | false => simp [Schedule.drop, ht.owns, ho]
          | true => simp [Schedule.drop, ht.owns, ho]
        · rw [queuedFor_drop, queuedFor_drop, h.queued]
  | cancel v =>
    rw [document?, Option.some.injEq] at hd
    subst hd
    cases hst
    cases hst'
    rw [List.filterMap_nil, List.append_nil]
    refine ⟨h.rest h.callers (Or.inr ⟨pending_cancel_self .., pending_cancel_self ..⟩) ?_, rfl⟩
    rw [queuedFor_cancel_self, queuedFor_cancel_self]

omit [Inhabited α] in
/-- An action that is about the document is about it in both runs. -/
theorem Mirrors.document? (h : Mirrors u passes r s) (hd : r.document? a = some u) :
    s.document? (a.recount passes) = some u := by
  cases a with
  | validate | cancel => exact hd
  | settle pass x =>
    obtain ⟨c, found, hu⟩ := Option.map_eq_some_iff.mp hd
    obtain ⟨d, found', ht⟩ := h.callerOf found hu
    exact Option.map_eq_some_iff.mpr ⟨d, found', ht.request ▸ hu⟩
  | abandon id =>
    obtain ⟨c, found, hu⟩ := Option.map_eq_some_iff.mp hd
    obtain ⟨d, found', ht⟩ := h.find_id found hu
    exact Option.map_eq_some_iff.mpr ⟨d, found', ht.request ▸ hu⟩

/-- In every run the run of the document alone mirrors what happens to the document. -/
theorem mirrors_after (u : Url) (as : List (Action α)) :
    Mirrors u (passesIn u as) (after as) (after (only u as)) := by
  induction as using List.reverseRecOn with
  | nil => exact ⟨rfl, rfl, rfl, List.nodup_nil, by simp [passesIn], .nil⟩
  | append_singleton as a ih =>
    rw [only_snoc, passesIn_snoc, after_snoc]
    by_cases hd : (after as).document? a = some u
    · rw [if_pos hd, after_snoc]
      exact (ih.step (sound_after _) (sound_after _) (step_act ..) hd (step_act ..)).1
    · rw [if_neg hd, List.append_nil, passesFor, (step_act (after as) a).no_pass hd, List.append_nil]
      exact ih.frame (step_act ..) hd

/-- What is to be seen of a document when something happens to it: the options of the passes that
are started, what its callers get, and after that whether it is being linted and what waits. -/
structure Seen (α : Type) where
  started : List Options
  returned : List (Nat × Outcome α)
  pending : Bool
  queued : List Options

def seen (u : Url) (r : Run) (a : Action α) : List (Seen α) :=
  if r.document? a = some u then
    [{  started := (r.startedBy a).map Request.options
        returned := (r.act a).2.filterMap Effect.returned?
        pending := (r.act a).1.schedule.isPending u
        queued := (r.act a).1.schedule.queuedFor u }]
  else []

/-- An action neither starts a pass for the document nor returns to one of its callers, and leaves
it as it is in the schedule. -/
structure Spares (u : Url) (r : Run) (a : Action α) : Prop where
  started : ∀ q ∈ r.startedBy a, q.url ≠ u
  returned : ∀ id o, .returned id o ∈ (r.act a).2 →
    (∃ q, a = .validate id q ∧ q.url ≠ u) ∨ ∃ c ∈ r.callers, c.id = id ∧ c.request.url ≠ u
  pending : (r.act a).1.schedule.isPending u = r.schedule.isPending u
  queued : (r.act a).1.schedule.queuedFor u = r.schedule.queuedFor u

omit [Inhabited α] in
theorem started?_recount (passes : List Nat) (es : List (Effect α)) :
    (es.map (Effect.recount passes)).filterMap Effect.started? = es.filterMap Effect.started? := by
  rw [List.filterMap_map]
  congr 1
  funext e
  cases e <;> rfl

omit [Inhabited α] in
theorem returned?_recount (passes : List Nat) (es : List (Effect α)) :
    (es.map (Effect.recount passes)).filterMap Effect.returned? =
      es.filterMap Effect.returned? := by
  rw [List.filterMap_map]
  congr 1
  funext e
  cases e <;> rfl

/-- The same is to be seen of the document in both runs when an action is about it. -/
theorem Mirrors.seen (h : Mirrors u passes r s) (hr : r.Sound) (hs : s.Sound)
    (hd : r.document? a = some u) : s.seen u (a.recount passes) = r.seen u a := by
  obtain ⟨hm, he⟩ := h.step hr hs (step_act r a) hd (step_act ..)
  rw [Run.seen, Run.seen, if_pos hd, if_pos (h.document? hd), startedBy, startedBy, he,
    started?_recount, returned?_recount, hm.pending, hm.queued]

theorem spares_of_other (hd : r.document? a ≠ some u) : Spares u r a := by
  have hs := step_act r a
  obtain ⟨hp, hq, _, hst, _⟩ := hs.frame hd
  refine ⟨hst, ?_, isPending_congr hp, hq⟩
  intro id o he
  generalize (r.act a).1 = r' at hs
  generalize (r.act a).2 = es at hs he
  cases hs with
  | wait id' q busy =>
    cases List.mem_singleton.mp he
    exact Or.inl ⟨q, rfl, by simpa [Run.document?] using hd⟩
  | stale pass x c found | free pass x c found =>
    cases List.mem_singleton.mp he
    exact Or.inr ⟨c, (mem_of_callerOf found).1, rfl, by simpa [Run.document?, found] using hd⟩
  | drop id' c found =>
    cases List.mem_singleton.mp he
    exact Or.inr ⟨c, (mem_of_find_id found).1, rfl, by simpa [Run.document?, found] using hd⟩
  | start | unknown | replay | absent | cancel => simp at he

/-- Without the actions that are about other documents a run is one in which the same is to be seen
of the document, action by action. The actions that are left out have nothing to do with it. -/
theorem documents_independent (as : List (Action α)) (u : Url) :
    gather (seen u) {} (only u as) = gather (seen u) {} as ∧
    (∀ before b rest, only u as = before ++ b :: rest → (after before).document? b = some u) ∧
    ∀ before a rest, as = before ++ a :: rest → (after before).document? a ≠ some u →
      Spares u (after before) a := by
  refine ⟨?_, ?_, fun before a _ _ hd => spares_of_other hd⟩
  · induction as using List.reverseRecOn with
    | nil => rfl
    | append_singleton as a ih =>
      have hg := gather_after_snoc (seen u) [] as a
      have ho := gather_after_snoc (seen u) [] (only u as) (a.recount (passesIn u as))
      simp only [after_nil, List.nil_append] at hg ho
      rw [only_snoc, hg]
      by_cases hd : (after as).document? a = some u
      · rw [if_pos hd, ho, ih, (mirrors_after u as).seen (sound_after _) (sound_after _) hd]
      · rw [if_neg hd, List.append_nil, ih, seen, if_neg hd, List.append_nil]
  · induction as using List.reverseRecOn with
    | nil =>
      intro before b rest he
      simp at he
    | append_singleton as a ih =>
      intro before b rest he
      rw [only_snoc] at he
      by_cases hd : (after as).document? a = some u
      · rw [if_pos hd] at he
        rcases List.eq_nil_or_concat rest with rfl | ⟨rest, e, rfl⟩
        · obtain ⟨rfl, hb⟩ := List.append_inj' he rfl
          cases hb
          exact (mirrors_after u as).document? hd
        · rw [List.concat_eq_append, ← List.cons_append, ← List.append_assoc] at he
          exact ih before b rest (List.append_inj' he rfl).1
      · rw [if_neg hd, List.append_nil] at he
        exact ih before b rest he

/-- The second pass of the run is the first one for its document. -/
example :
    let u : Url := { scheme := "file", path := .segments ["a.md"] }
    let v : Url := { scheme := "file", path := .segments ["b.md"] }
    only (α := List Edit) u [.validate 0 ⟨v, {}⟩, .validate 1 ⟨u, {}⟩, .settle 0 none, .settle 1 none] =
      [.validate 1 ⟨u, {}⟩, .settle 0 none] := rfl

end Run

end Considerate.Schedule
