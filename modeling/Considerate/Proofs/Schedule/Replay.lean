import Considerate.Proofs.Schedule.Slots
import Considerate.Range

namespace Considerate.Schedule

variable {α : Type} [Inhabited α]

def Effect.started? : Effect α → Option Request
  | .started _ q => some q
  | .returned _ _ => none

def Action.call? : Action α → Option Nat
  | .validate id _ => some id
  | _ => none

namespace Run

variable {r r' : Run} {a : Action α} {es : List (Effect α)} {u : Url}

def startedBy (r : Run) (a : Action α) : List Request := (r.act a).2.filterMap Effect.started?

/-- What an action adds to the requests that wait for a document. -/
def queuedBy (u : Url) (r : Run) : Action α → List Options
  | .validate _ q =>
    if q.url = u ∧ r.schedule.isPending u = true ∧ q ∉ r.schedule.queued then [q.options] else []
  | _ => []

def replayedBy (u : Url) (r : Run) : Action α → List Options
  | .settle pass x =>
    ((r.startedBy (.settle pass x)).filter fun q => q.url = u).map Request.options
  | _ => []

def passesBy (id : Nat) (r : Run) (a : Action α) : List Nat :=
  ((r.act a).1.callers.filter fun c => c.id = id ∧ r.passes ≤ c.pass).map Caller.pass

def Returns (r : Run) (a : Action α) (id : Nat) : Prop := ∃ o, .returned id o ∈ (r.act a).2

/-- A request waits while the call with the number owns its document. -/
def Waits (r : Run) (q : Request) (id : Nat) : Prop :=
  q ∈ r.schedule.queued ∧ ∃ c ∈ r.callers,
    c.id = id ∧ c.request.url = q.url ∧ r.schedule.owns c.request.url c.ticket = true

/-- Calls with numbers of their own: a caller is known by its number, and works for the document
that its call was about. -/
structure Named (as : List (Action α)) : Prop where
  apart : ∀ c ∈ (after as).callers, ∀ d ∈ (after as).callers, c.id = d.id → c = d
  called : ∀ c ∈ (after as).callers, ∃ q, .validate c.id q ∈ as ∧ q.url = c.request.url

theorem mem_queued_enqueue {s : Schedule} {q p : Request} :
    p ∈ (s.enqueue q).queued ↔ p ∈ s.queued ∨ p = q := by
  by_cases hm : q ∈ s.queued
  · simp only [enqueue, List.contains_iff_mem, hm, if_true]
    constructor
    · exact Or.inl
    · rintro (hp | rfl)
      · exact hp
      · exact hm
  · simp [enqueue, hm]

/-- A step that neither cancels the document nor drops its caller either starts the request that
waits or leaves it waiting, and does not let the owner return. -/
theorem Sound.waits_step (h : r.Sound) (hs : Step r a r' es) {q : Request} {id : Nat}
    (hw : r.Waits q id) (hid : ∀ c ∈ r.callers, ∀ d ∈ r.callers, c.id = d.id → c = d)
    (hv : ∀ p, a ≠ .validate id p) (hc : a ≠ .cancel q.url)
    (hd : ∀ i c, a = .abandon i → r.callers.find? (fun c => c.id = i) = some c →
      c.request.url ≠ q.url) :
    (q ∈ es.filterMap Effect.started? ∨ r'.Waits q id) ∧ ∀ o, .returned id o ∉ es := by
  obtain ⟨hq, c, hm, rfl, hu, ho⟩ := hw
  have hstay : ∀ t cs n, (∀ p ∈ r.schedule.queued, p.url = q.url → p ∈ t.queued) → c ∈ cs →
      t.pending.get? q.url = r.schedule.pending.get? q.url →
      Waits ⟨t, cs, n⟩ q c.id := by
    intro t cs n ht hcs hp
    refine ⟨ht q hq rfl, c, hcs, rfl, hu, ?_⟩
    rw [owns_congr (hu ▸ hp), ho]
  cases hs with
  | wait i p busy =>
    refine ⟨Or.inr (hstay _ _ _ ?_ hm rfl), ?_⟩
    · intro p' hp' _
      exact mem_queued_enqueue.mpr (Or.inl hp')
    · intro o hmem
      simp only [List.mem_singleton, Effect.returned.injEq] at hmem
      exact hv p (by rw [hmem.1])
  | start i p idle =>
    refine ⟨Or.inr (hstay _ _ _ (fun p' hp' _ => hp') (List.mem_append_left _ hm) ?_), by simp⟩
    apply pending_claim_ne
    intro he
    rw [← he, ← hu, isPending_of_owns ho] at idle
    cases idle
  | unknown | absent => exact ⟨Or.inr ⟨hq, c, hm, rfl, hu, ho⟩, by simp⟩
  | stale pass x d found old =>
    have hne : c ≠ d := by
      rintro rfl
      rw [ho] at old
      cases old
    refine ⟨Or.inr (hstay _ _ _ (fun p' hp' _ => hp') (mem_remove.mpr ⟨hm, hne⟩) rfl), ?_⟩
    intro o hmem
    simp only [List.mem_singleton, Effect.returned.injEq] at hmem
    exact hne (hid c hm d (mem_of_callerOf found).1 hmem.1)
  | free pass x d found owner empty =>
    -- A document with a request that waits is not freed.
    have hne : d.request.url ≠ q.url := by
      intro he
      have hmem := mem_queuedFor.mpr hq
      rw [← he, empty] at hmem
      cases hmem
    have hcd : c ≠ d := by
      rintro rfl
      exact hne hu
    refine ⟨Or.inr (hstay _ _ _ (fun p' hp' _ => hp') (mem_remove.mpr ⟨hm, hcd⟩)
      (Keyed.get?_erase_ne _ (Ne.symm hne))), ?_⟩
    intro o hmem
    simp only [List.mem_singleton, Effect.returned.injEq] at hmem
    exact hcd (hid c hm d (mem_of_callerOf found).1 hmem.1)
  | replay pass x d found owner next t handed =>
    refine ⟨?_, by simp⟩
    by_cases hn : next = q
    · left
      simp [Effect.started?, hn]
    · right
      have hkeep : q ∈ t.queued := by
        rw [handed.queue]
        exact (List.mem_erase_of_ne (Ne.symm hn)).mpr hq
      by_cases hcd : c = d
      · subst hcd
        refine ⟨hkeep, _, List.mem_append_right _ (List.mem_singleton.mpr rfl), rfl,
          handed.url.trans hu, ?_⟩
        exact owns_iff.mpr ⟨_, handed.url ▸ handed.slot, rfl⟩
      · have hne := h.url_ne_of_owns hm (mem_of_callerOf found).1 hcd ho owner
        refine ⟨hkeep, c, List.mem_append_left _ (mem_remove.mpr ⟨hm, hcd⟩), rfl, hu, ?_⟩
        rw [owns_congr (handed.others _ hne), ho]
  | drop i d found =>
    have hne := hd i d rfl found
    have hcd : c ≠ d := by
      rintro rfl
      exact hne hu
    refine ⟨Or.inr ?_, ?_⟩
    · rcases drop_cases r.schedule d.request.url d.ticket with ⟨_, he⟩ | ⟨_, he⟩
      · exact hstay _ _ _ (fun p' hp' _ => by simpa [he] using hp') (mem_remove.mpr ⟨hm, hcd⟩) (by rw [he])
      · refine hstay _ _ _ (fun p' hp' _ => by simpa [he] using hp') (mem_remove.mpr ⟨hm, hcd⟩) ?_
        rw [he]
        exact Keyed.get?_erase_ne _ (Ne.symm hne)
    · intro o hmem
      simp only [List.mem_singleton, Effect.returned.injEq] at hmem
      exact hcd (hid c hm d (mem_of_find_id found).1 hmem.1)
  | cancel v =>
    have hne : q.url ≠ v := by
      rintro rfl
      exact hc rfl
    refine ⟨Or.inr (hstay _ _ _ ?_ hm (pending_cancel_ne _ hne)), by simp⟩
    intro p hp hpu
    simp [Schedule.cancel, hp, hpu, hne]

theorem Named.nil : Named ([] : List (Action α)) := ⟨by simp, by simp⟩

/-- A call that is made once is not running before that. -/
theorem Named.fresh {as : List (Action α)} (h : Named as) {id : Nat}
    (hid : id ∉ as.filterMap Action.call?) : ∀ c ∈ (after as).callers, c.id ≠ id := by
  rintro c hc rfl
  obtain ⟨q, hq, _⟩ := h.called c hc
  exact hid (List.mem_filterMap.mpr ⟨_, hq, rfl⟩)

theorem Named.mono {as : List (Action α)} (h : Named as)
    (hsub : ∀ c ∈ ((after as).act a).1.callers, c ∈ (after as).callers) : Named (as ++ [a]) := by
  refine ⟨?_, ?_⟩
  · intro c hc d hd
    rw [after_snoc] at hc hd
    exact h.apart c (hsub c hc) d (hsub d hd)
  · intro c hc
    rw [after_snoc] at hc
    obtain ⟨q, hq, hu⟩ := h.called c (hsub c hc)
    exact ⟨q, List.mem_append_left _ hq, hu⟩

theorem Named.begin {as : List (Action α)} (h : Named as) {cs : List Caller} {new : Caller}
    (hcs : ((after as).act a).1.callers = cs ++ [new])
    (hsub : ∀ c ∈ cs, c ∈ (after as).callers ∧ c.id ≠ new.id)
    (hnew : ∃ q, .validate new.id q ∈ as ++ [a] ∧ q.url = new.request.url) :
    Named (as ++ [a]) := by
  refine ⟨?_, ?_⟩
  · intro c hc d hd he
    rw [after_snoc, hcs, List.mem_append, List.mem_singleton] at hc hd
    rcases hc with hc | rfl <;> rcases hd with hd | rfl
    · exact h.apart c (hsub c hc).1 d (hsub d hd).1 he
    · exact ((hsub c hc).2 he).elim
    · exact ((hsub d hd).2 he.symm).elim
    · rfl
  · intro c hc
    rw [after_snoc, hcs, List.mem_append, List.mem_singleton] at hc
    rcases hc with hc | rfl
    · obtain ⟨q, hq, hu⟩ := h.called c (hsub c hc).1
      exact ⟨q, List.mem_append_left _ hq, hu⟩
    · exact hnew

/-- Of the callers after an action at most one is new. It has the next pass, and works for a call
that no other caller works for. -/
theorem Named.callers_step {as : List (Action α)} (h : Named as)
    (hn : ((as ++ [a]).filterMap Action.call?).Nodup) :
    (∀ c ∈ ((after as).act a).1.callers, c ∈ (after as).callers) ∨
    ∃ cs new, ((after as).act a).1.callers = cs ++ [new] ∧ new.pass = (after as).passes ∧
      (∀ c ∈ cs, c ∈ (after as).callers ∧ c.id ≠ new.id) ∧
      ∃ q, .validate new.id q ∈ as ++ [a] ∧ q.url = new.request.url := by
  have hs := step_act (after as) a
  generalize ((after as).act a).1 = r' at hs ⊢
  generalize ((after as).act a).2 = es at hs
  cases hs with
  | wait | unknown | absent | cancel => exact Or.inl fun c hc => hc
  | stale | free | drop => exact Or.inl fun c hc => (mem_remove.mp hc).1
  | start id q idle =>
    refine Or.inr ⟨_, _, rfl, rfl, ?_, q, by simp [begun], rfl⟩
    intro c hc
    refine ⟨hc, h.fresh ?_ c hc⟩
    intro hm
    rw [List.filterMap_append, List.nodup_append] at hn
    exact hn.2.2 id hm id (by simp [Action.call?]) rfl
  | replay pass x d found owner next t handed =>
    obtain ⟨hd, _⟩ := mem_of_callerOf found
    obtain ⟨q, hq, hu⟩ := h.called d hd
    refine Or.inr ⟨_, _, rfl, rfl, ?_, q, List.mem_append_left _ hq, hu.trans handed.url.symm⟩
    intro c hc
    obtain ⟨hc, hne⟩ := mem_remove.mp hc
    exact ⟨hc, fun he => hne (h.apart c hc d hd he)⟩

theorem named_after (as : List (Action α)) (hn : (as.filterMap Action.call?).Nodup) :
    Named as := by
  induction as using List.reverseRecOn with
  | nil => exact .nil
  | append_singleton as a ih =>
    have hleft := hn
    rw [List.filterMap_append] at hleft
    have h := ih (List.nodup_append.mp hleft).1
    rcases h.callers_step hn with hsub | ⟨cs, new, hcs, _, hsub, hnew⟩
    · exact h.mono hsub
    · exact h.begin hcs hsub hnew

/-- A run of calls with numbers of their own, in which the document is not cancelled and none of
its callers is dropped. -/
structure Undisturbed (as : List (Action α)) (u : Url) : Prop where
  calls_nodup : (as.filterMap Action.call?).Nodup
  not_cancelled : .cancel u ∉ as
  not_dropped : ∀ id q, .validate id q ∈ as → q.url = u → .abandon id ∉ as

omit [Inhabited α] in
theorem Undisturbed.left {as bs : List (Action α)} (h : Undisturbed (as ++ bs) u) :
    Undisturbed as u where
  calls_nodup := by
    have hn := h.calls_nodup
    rw [List.filterMap_append] at hn
    exact (List.nodup_append.mp hn).1
  not_cancelled hm := h.not_cancelled (List.mem_append_left _ hm)
  not_dropped id q hq hu hm :=
    h.not_dropped id q (List.mem_append_left _ hq) hu (List.mem_append_left _ hm)

theorem Undisturbed.named {as : List (Action α)} (h : Undisturbed as u) : Named as :=
  named_after as h.calls_nodup

theorem Undisturbed.waits_next {as : List (Action α)} {q : Request} {id : Nat}
    (h : Undisturbed (as ++ [a]) q.url) (hw : (after as).Waits q id) :
    (q ∈ startedBy (after as) a ∨ (after (as ++ [a])).Waits q id) ∧
      ¬ (after as).Returns a id := by
  have hnames := h.left.named
  have hres := (sound_after as).waits_step (step_act _ a) hw hnames.apart ?_ ?_ ?_
  · rw [after_snoc]
    exact ⟨hres.1, fun ⟨o, ho⟩ => hres.2 o ho⟩
  · rintro p rfl
    obtain ⟨_, d, hd, rfl, -⟩ := hw
    have hn := h.calls_nodup
    rw [List.filterMap_append, List.nodup_append] at hn
    apply hnames.fresh _ d hd rfl
    intro hm
    exact hn.2.2 d.id hm d.id (by simp [Action.call?]) rfl
  · rintro rfl
    exact h.not_cancelled (by simp)
  · rintro i d rfl hf hu
    obtain ⟨hd, rfl⟩ := mem_of_find_id hf
    obtain ⟨p, hp, hpu⟩ := hnames.called d hd
    exact h.not_dropped d.id p (List.mem_append_left _ hp) (hpu.trans hu) (by simp)

/-- A request that finds its document busy waits for the owner of that moment, until it is
started. -/
theorem Undisturbed.waits_until_started {before mid : List (Action α)} {id : Nat} {q : Request}
    (h : Undisturbed (before ++ .validate id q :: mid) q.url) {c : Caller}
    (hc : c ∈ (after before).callers) (hu : c.request.url = q.url)
    (ho : (after before).schedule.owns q.url c.ticket = true) :
    q ∈ gather startedBy (after (before ++ [.validate id q])) mid ∨
      (after (before ++ .validate id q :: mid)).Waits q c.id := by
  induction mid using List.reverseRecOn with
  | nil =>
    right
    rw [after_snoc]
    have hs := step_act (after before) (.validate (α := α) id q)
    generalize ((after before).act (.validate (α := α) id q)).1 = r' at hs ⊢
    generalize ((after before).act (.validate (α := α) id q)).2 = es at hs
    cases hs with
    | wait _ _ _ => exact ⟨mem_queued_enqueue.mpr (Or.inr rfl), c, hc, rfl, hu, hu ▸ ho⟩
    | start _ _ idle =>
      rw [isPending_of_owns ho] at idle
      cases idle
  | append_singleton mid a ih =>
    have hsplit : before ++ .validate id q :: (mid ++ [a]) =
        (before ++ .validate id q :: mid) ++ [a] := by simp
    rw [hsplit] at h ⊢
    rw [gather_after_snoc]
    rcases ih h.left with hst | hw
    · exact Or.inl (List.mem_append_left _ hst)
    · rcases (h.waits_next hw).1 with hst | hw'
      · left
        apply List.mem_append_right
        simpa using hst
      · exact Or.inr hw'

/-- The queue holds no request twice. -/
theorem queued_nodup (as : List (Action α)) : (after as).schedule.queued.Nodup := by
  induction as using List.reverseRecOn with
  | nil => simp
  | append_singleton as a ih =>
    rw [after_snoc]
    have hs := step_act (after as) a
    generalize ((after as).act a).1 = r' at hs ⊢
    generalize ((after as).act a).2 = es at hs
    cases hs with
    | wait id q busy =>
      by_cases hm : q ∈ (after as).schedule.queued
      · simpa [enqueue, hm] using ih
      · simp only [enqueue, List.contains_iff_mem, hm, if_false]
        exact List.nodup_append.mpr ⟨ih, by simp, by simp; rintro p hp rfl; exact hm hp⟩
    | start | unknown | absent | stale | free => exact ih
    | replay pass x c found owner next t handed =>
      rw [show t.queued = _ from handed.queue]
      exact ih.erase _
    | drop id c found => simpa using ih
    | cancel u => exact ih.filter _

/-- What has come to wait for a document has been started since, in that order, or waits still. -/
theorem queued_in_order (as : List (Action α)) (u : Url) (hc : .cancel u ∉ as) :
    gather (queuedBy u) {} as =
      gather (replayedBy u) {} as ++ (after as).schedule.queuedFor u := by
  induction as using List.reverseRecOn with
  | nil => rfl
  | append_singleton as a ih =>
    have ih := ih (fun hm => hc (List.mem_append_left _ hm))
    have hq := gather_after_snoc (queuedBy u) [] as a
    have hr := gather_after_snoc (replayedBy u) [] as a
    simp only [after_nil, List.nil_append] at hq hr
    rw [hq, hr, ih, after_snoc, List.append_assoc, List.append_assoc]
    congr 1
    have hs := step_act (after as) a
    generalize hr' : ((after as).act a).1 = r' at hs ⊢
    generalize he : ((after as).act a).2 = es at hs
    have hst : startedBy (after as) a = es.filterMap Effect.started? := by rw [startedBy, he]
    cases hs with
    | wait id q busy =>
      simp only [queuedBy, replayedBy, queuedFor_enqueue, List.nil_append]
      by_cases hu : q.url = u
      · subst hu
        simp [busy]
      · simp [hu]
    | start id q idle =>
      by_cases hu : q.url = u
      · subst hu
        simp [queuedBy, replayedBy, idle]
      · simp [queuedBy, replayedBy, hu]
    | unknown | absent => simp [queuedBy, replayedBy, hst]
    | stale | free => simp [queuedBy, replayedBy, hst, Effect.started?, queuedFor]
    | replay pass x c found owner next t handed =>
      simp only [queuedBy, replayedBy, hst, List.append_nil]
      by_cases hu : c.request.url = u
      · subst hu
        simp [Effect.started?, handed.first, handed.url]
      · have hn : next.url ≠ u := by
          rw [handed.url]
          exact hu
        simp [Effect.started?, handed.others_wait u (Ne.symm hu), hn]
    | drop id c found => simp [queuedBy, replayedBy]
    | cancel v =>
      have hne : u ≠ v := by
        rintro rfl
        exact hc (by simp)
      simp [queuedBy, replayedBy, queuedFor_cancel_ne _ hne]

theorem last_pass (as : List (Action α)) (hn : (as.filterMap Action.call?).Nodup) :
    ∀ c ∈ (after as).callers, (gather (passesBy c.id) {} as).getLast? = some c.pass := by
  induction as using List.reverseRecOn with
  | nil => simp
  | append_singleton as a ih =>
    have hleft := hn
    rw [List.filterMap_append] at hleft
    have hleft := (List.nodup_append.mp hleft).1
    have hold : ∀ c ∈ (after as).callers, c.pass < (after as).passes := (sound_after as).numbered
    intro c hc
    rw [after_snoc] at hc
    have hg := gather_after_snoc (passesBy c.id) [] as a
    simp only [after_nil, List.nil_append] at hg
    rw [hg]
    rcases (named_after as hleft).callers_step hn with hsub | ⟨cs, new, hcs, hp, hsub, _⟩
    · have hnone : passesBy c.id (after as) a = [] := by
        simp only [passesBy, List.map_eq_nil_iff, List.filter_eq_nil_iff, decide_eq_true_eq]
        intro d hd hle
        have := hold d (hsub d hd)
        omega
      rw [hnone, List.append_nil]
      exact ih hleft c (hsub c hc)
    · have hnew : passesBy c.id (after as) a = if new.id = c.id then [new.pass] else [] := by
        have hfilter : (cs.filter fun d => d.id = c.id ∧ (after as).passes ≤ d.pass) = [] := by
          simp only [List.filter_eq_nil_iff, decide_eq_true_eq]
          intro d hd hle
          have := hold d (hsub d hd).1
          omega
        rw [passesBy, hcs, List.filter_append, hfilter]
        by_cases he : new.id = c.id <;> simp [he, hp]
      rw [hcs, List.mem_append, List.mem_singleton] at hc
      rcases hc with hc | rfl
      · rw [hnew, if_neg (Ne.symm (hsub c hc).2), List.append_nil]
        exact ih hleft c (hsub c hc).1
      · rw [hnew, if_pos rfl]
        simp

/-- What becomes of the requests for a document in a run: the edits are lists, of which a failed
pass gives the empty one. -/
structure Replay {ε : Type} (as : List (Action (List ε))) (u : Url) : Prop where
  /-- A request that finds the document busy is started after that, before the caller that owns
  the document then returns. It waits, and that caller runs, until it is started. -/
  served : ∀ before id q rest, as = before ++ .validate id q :: rest → q.url = u →
    (after before).schedule.isPending u = true →
    ∃ c ∈ (after before).callers, c.request.url = u ∧
      (after before).schedule.owns u c.ticket = true ∧
      (∀ mid k, rest = mid ++ k →
        q ∈ gather startedBy (after (before ++ [.validate id q])) mid ∨
        (after (before ++ .validate id q :: mid)).Waits q c.id) ∧
      ∀ mid a k, rest = mid ++ a :: k →
        (after (before ++ .validate id q :: mid)).Returns a c.id →
        q ∈ gather startedBy (after (before ++ [.validate id q])) mid
  nodup : (after as).schedule.queued.Nodup
  /-- The requests that came to wait are those that were started in place of a pass that ended,
  followed by those that wait still. -/
  in_order : gather (queuedBy u) {} as =
    gather (replayedBy u) {} as ++ (after as).schedule.queuedFor u
  /-- A call that finds its document busy returns at once, without edits. -/
  busy : ∀ before id q rest, as = before ++ .validate id q :: rest →
    (after before).schedule.isPending q.url = true →
    ((after before).act (.validate (α := List ε) id q)).2 = [.returned id (.done [])]
  /-- Any other call returns when the last pass that it started ends, with the edits of that. -/
  edits : ∀ before a rest, as = before ++ a :: rest → ∀ id es,
    .returned id (.done es) ∈ ((after before).act a).2 →
    (∃ q, a = .validate id q ∧ (after before).schedule.isPending q.url = true ∧ es = []) ∨
    ∃ pass x, a = .settle pass x ∧
      (gather (passesBy id) {} before).getLast? = some pass ∧ es = x.getD []
  freed : ∀ before a rest, as = before ++ a :: rest →
    (after before).schedule.isPending u = true →
    ((after before).act a).1.schedule.isPending u = false →
    (after before).schedule.queuedFor u = [] ∧ ((after before).act a).1.schedule.queuedFor u = []

theorem edits_of_last_pass (as : List (Action α)) (hn : (as.filterMap Action.call?).Nodup)
    (a : Action α) (id : Nat) (e : α) (he : .returned id (.done e) ∈ ((after as).act a).2) :
    (∃ q, a = .validate id q ∧ (after as).schedule.isPending q.url = true ∧ e = default) ∨
    ∃ pass x, a = .settle pass x ∧
      (gather (passesBy id) {} as).getLast? = some pass ∧ e = x.getD default := by
  have hs := step_act (after as) a
  generalize ((after as).act a).1 = r' at hs
  generalize ((after as).act a).2 = es at hs he
  cases hs with
  | wait i q busy =>
    simp only [List.mem_singleton, Effect.returned.injEq, Outcome.done.injEq] at he
    obtain ⟨rfl, rfl⟩ := he
    exact Or.inl ⟨q, rfl, busy, rfl⟩
  | stale pass x c found | free pass x c found =>
    simp only [List.mem_singleton, Effect.returned.injEq, Outcome.done.injEq] at he
    obtain ⟨rfl, rfl⟩ := he
    obtain ⟨hc, rfl⟩ := mem_of_callerOf found
    exact Or.inr ⟨c.pass, x, rfl, last_pass as hn c hc, rfl⟩
  | start | unknown | absent | replay | drop | cancel => simp at he

/-- In a run in which the document is not cancelled and no caller for it is dropped, no request
for it is lost or started twice. -/
theorem replay_of_undisturbed {ε : Type} (as : List (Action (List ε))) (u : Url)
    (h : Undisturbed as u) : Replay as u where
  served := by
    rintro before id q rest rfl rfl busy
    obtain ⟨slot, hslot⟩ := isPending_iff.mp busy
    obtain ⟨c, hc, hu, ht⟩ := (sound_after before).held.taken q.url slot hslot
    have ho : (after before).schedule.owns q.url c.ticket = true :=
      owns_iff.mpr ⟨slot, hslot, ht.symm⟩
    refine ⟨c, hc, hu, ho, ?_, ?_⟩
    · rintro mid k rfl
      have hm : Undisturbed ((before ++ .validate id q :: mid) ++ k) q.url := by simpa using h
      exact hm.left.waits_until_started hc hu ho
    · rintro mid a k rfl hr
      have hk : Undisturbed (((before ++ .validate id q :: mid) ++ [a]) ++ k) q.url := by
        simpa using h
      have hm := hk.left
      rcases hm.left.waits_until_started hc hu ho with hst | hw
      · exact hst
      · exact ((hm.waits_next hw).2 hr).elim
  nodup := queued_nodup as
  in_order := queued_in_order as u h.not_cancelled
  busy := by
    rintro before id q rest rfl busy
    have hs := step_act (after before) (.validate (α := List ε) id q)
    generalize ((after before).act (.validate (α := List ε) id q)).1 = r' at hs
    generalize ((after before).act (.validate (α := List ε) id q)).2 = es at hs ⊢
    cases hs with
    | wait _ _ _ => rfl
    | start _ _ idle =>
      rw [busy] at idle
      cases idle
  edits := by
    rintro before a rest rfl id es he
    exact edits_of_last_pass before h.left.calls_nodup a id es he
  freed := by
    rintro before a rest rfl hp hp'
    rcases freed_cases (step_act (after before) a) hp hp' with
      rfl | ⟨pass, x, rfl, hq, hq'⟩ | ⟨i, c, rfl, hf, hu, _⟩
    · exact (h.not_cancelled (by simp)).elim
    · exact ⟨hq, hq'⟩
    · obtain ⟨hc, rfl⟩ := mem_of_find_id hf
      obtain ⟨q, hq, hqu⟩ := h.left.named.called c hc
      exact (h.not_dropped c.id q (List.mem_append_left _ hq) (hqu.trans hu) (by simp)).elim

/-- Two requests that differ are replayed after a pass that fails, and one of them only once. -/
theorem replay_after_failure :
    let u : Url := { scheme := "file", path := .segments ["a.md"] }
    let as : List (Action (List Edit)) :=
      [.validate 0 ⟨u, {}⟩, .validate 1 ⟨u, { format := true }⟩, .validate 2 ⟨u, { fix := true }⟩,
        .validate 3 ⟨u, { format := true }⟩, .settle 0 none, .settle 1 (some []), .settle 2 none]
    Undisturbed as u ∧ Replay as u := by
  intro u as
  have h : Undisturbed as u := ⟨by decide, by simp [as], by simp [as]⟩
  exact ⟨h, replay_of_undisturbed as u h⟩

end Run

end Considerate.Schedule
