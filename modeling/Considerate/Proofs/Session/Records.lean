import Considerate.Proofs.Session.Deeds
import Considerate.Proofs.Session.Reopened

namespace Considerate.Session

variable {s t : Session} {id k : Nat} {st next : Stage} {p q : Pass} {as : List Action} {a : Action}

def Effect.deed? (s : Session) : Effect → Option (Nat × Deed)
  | .called id c => ((s.tasks.get? id).bind Stage.ticket?).map fun m => (m, .calls c)
  | _ => none

def departure (s : Session) : Action → List (Nat × Deed)
  | .advance id => ((s.tasks.get? id).map fun st => st.mark st.leaving).getD []
  | _ => []

/-- What passes do by an action: what a task does by going on, and the calls that come of it. -/
def logOf (s : Session) (a : Action) : List (Nat × Deed) :=
  s.departure a ++ (s.act a).2.filterMap (Effect.deed? (s.act a).1)

def log (as : List Action) : List (Nat × Deed) :=
  gather (fun (s : Session) a => (s.act a).1) logOf {} as

/-- What the pass with the ticket has done. -/
def deeds (m : Nat) (as : List Action) : List Deed := under m (log as)

theorem log_snoc (as : List Action) (a : Action) :
    log (as ++ [a]) = log as ++ (after as).logOf a := by
  rw [log, gather_snoc]
  rfl

/-- A task that goes on does what belongs to the two stages. -/
theorem logOf_advance (found : s.tasks.get? id = some st) (ready : s.canGoOn id st = true) :
    s.logOf (.advance id) =
      st.mark st.leaving ++ (s.advance id st).2.mark (s.advance id st).2.coming := by
  rw [logOf, act_advance found ready, departure, found]
  generalize (s.advance id st).1 = t, (s.advance id st).2 = next
  congr 1
  have hw : ∀ ids : List Nat,
      (ids.map Effect.woken).filterMap (Effect.deed? (t.put id next)) = [] := by
    intro ids
    simp [List.filterMap_map, Effect.deed?, Function.comp_def]
  rw [List.filterMap_append, hw, List.nil_append]
  cases next with
  | calling c plan =>
    have there : (t.put id (.calling c plan)).tasks.get? id = some (.calling c plan) :=
      Keyed.get?_set_self ..
    simp only [seen, List.filterMap_cons, List.filterMap_nil, Effect.deed?, there,
      Option.bind_some, Stage.mark, Stage.coming]
    cases (Stage.calling c plan).ticket? <;> rfl
  | _ => simp [seen, Stage.coming, Stage.mark, Effect.deed?]; split <;> rfl

theorem leaving_of_stuck (stuck : s.canGoOn id st = false) : st.leaving = [] := by
  cases st with
  | back | linted => cases stuck
  | _ => rfl

theorem mark_nil (st : Stage) : st.mark [] = [] := by
  unfold Stage.mark
  cases st.ticket? <;> rfl

theorem Step.woken {es : List Effect} (h : Step s a t es)
    (still : ∀ id st, a = .advance id → s.tasks.get? id = some st → s.canGoOn id st = false) :
    ∀ e ∈ es, ∃ id, e = .woken id := by
  intro e he
  cases h with
  | advance id st found ready =>
    rw [still id st rfl found] at ready
    cases ready
  | drop id st found =>
    obtain ⟨l, _, rfl⟩ := List.mem_map.mp he
    exact ⟨l, rfl⟩
  | call id | answer id | linted id =>
    rw [List.mem_singleton] at he
    exact ⟨id, he⟩
  | _ => cases he

theorem logOf_still
    (still : ∀ id st, a = .advance id → s.tasks.get? id = some st → s.canGoOn id st = false) :
    s.logOf a = [] := by
  have departs : s.departure a = [] := by
    cases a with
    | advance id =>
      cases found : s.tasks.get? id with
      | none => simp [departure, found]
      | some st => simp [departure, found, leaving_of_stuck (still id st rfl found), mark_nil]
    | _ => rfl
  rw [logOf, departs, List.nil_append, List.filterMap_eq_nil_iff]
  intro e he
  obtain ⟨id, rfl⟩ := (step_act s a).woken still e he
  rfl

/-- A task goes on, and its pass does what belongs to the two stages. -/
structure Does (as : List Action) (k : Nat) (st : Stage) (t : Session) (next : Stage) : Prop
    extends GoesOn as k st t next where
  logs : log (as ++ [.advance k]) = log as ++ (st.mark st.leaving ++ next.mark next.coming)
  effects : ∃ ids : List Nat, ((after as).act (.advance k)).2 = ids.map .woken ++ seen k next

theorem does_or_still (as : List Action) (a : Action) :
    (∃ k st t next, a = .advance k ∧ Does as k st t next) ∨
    (∀ k st, a = .advance k → (after as).tasks.get? k = some st →
      (after as).canGoOn k st = false) ∧ log (as ++ [a]) = log as := by
  by_cases ready : ∃ k st, a = .advance k ∧ (after as).tasks.get? k = some st ∧
      (after as).canGoOn k st = true
  · obtain ⟨k, st, rfl, found, ready⟩ := ready
    refine Or.inl ⟨k, st, _, _, rfl, goesOn_of_ready found ready, ?_, ?_⟩
    · rw [log_snoc, logOf_advance found ready]
    · exact ⟨_, congrArg Prod.snd (act_advance found ready)⟩
  · right
    have still : ∀ k st, a = .advance k → (after as).tasks.get? k = some st →
        (after as).canGoOn k st = false := fun k st ha found =>
      Bool.eq_false_iff.mpr fun hr => ready ⟨k, st, ha, found, hr⟩
    refine ⟨still, ?_⟩
    rw [log_snoc, logOf_still still, List.append_nil]

theorem Does.adds (h : Does as k st t next) (m : Nat) :
    deeds m (as ++ [.advance k]) =
      deeds m as ++ ((if st.ticket? = some m then st.leaving else []) ++
        if next.ticket? = some m then next.coming else []) := by
  rw [deeds, h.logs, under_append, under_append, under_mark, under_mark, deeds]

theorem ticket?_iff {m : Nat} : st.ticket? = some m ↔ ∃ u, st.holding? = some (u, m) := by
  unfold Stage.ticket? Stage.holding?
  cases st.pass? <;> simp

/-- A pass whose ticket is not with the task that goes on does nothing. -/
theorem deeds_snoc_of_apart {m : Nat} (before : ∀ k u, a = .advance k → ¬ (after as).holds k u m)
    (now : ∀ k u, a = .advance k → ¬ (after (as ++ [a])).holds k u m) :
    deeds m (as ++ [a]) = deeds m as := by
  rcases does_or_still as a with ⟨k, st, t, next, rfl, does⟩ | ⟨_, same⟩
  · have hst : st.ticket? ≠ some m := fun ht => by
      obtain ⟨u, hu⟩ := ticket?_iff.mp ht
      exact before k u rfl ⟨st, does.found, hu⟩
    have hnext : next.ticket? ≠ some m := fun ht => by
      obtain ⟨u, hu⟩ := ticket?_iff.mp ht
      refine now k u rfl ?_
      rw [does.result]
      exact (holds_put does.moves.tasks k u m).mpr (Or.inr ⟨rfl, hu⟩)
    rw [does.adds m, if_neg hst, if_neg hnext, List.append_nil, List.append_nil]
  · rw [deeds, same, deeds]

theorem deeds_of_unissued (as : List Action) {m : Nat}
    (h : (after as).schedule.lastTicket < m) : deeds m as = [] := by
  induction as using List.reverseRecOn with
  | nil => rfl
  | append_singleton as a ih =>
    have hm := Nat.lt_of_le_of_lt (lastTicket_snoc as a) h
    have unheld : ∀ as : List Action, (after as).schedule.lastTicket < m → ∀ k u,
        ¬ (after as).holds k u m := fun as hm k u hh =>
      Nat.not_le_of_lt hm ((held_after as).issued k u m hh)
    rw [deeds_snoc_of_apart (fun k u _ => unheld as hm k u)
      (fun k u _ => unheld (as ++ [a]) h k u), ih hm]

def Called (r : Request) (as : List Action) : Prop := ∃ l, .call l (.validate r) ∈ as

/-- A pass does a request that has been made, on the document as it was before the pass did
anything. -/
structure Arisen (p : Pass) (as : List Action) : Prop where
  called : Called p.request as
  document : ∃ pre, pre <+: as ∧ p.document = (after pre).documents.get? p.url ∧
    deeds p.ticket pre = []

theorem Called.snoc {r : Request} (h : Called r as) (a : Action) : Called r (as ++ [a]) :=
  h.imp fun _ hm => List.mem_append_left _ hm

theorem called_of_fresh {r : Request}
    (found : (after as).tasks.get? k = some (.fresh (.validate r))) : Called r as := by
  by_contra uncalled
  exact not_fresh_after (fun l hl => uncalled ⟨l, hl⟩) k found

theorem Trades.queued {r : Request} (h : Trades s st t next) (hr : r ∈ t.schedule.queued) :
    r ∈ s.schedule.queued ∨ st = .fresh (.validate r) := by
  cases h with
  | nothing begun same | stale q here old same => exact Or.inl (same ▸ hr)
  | wait q here busy queued =>
    rw [queued, Schedule.enqueue] at hr
    split at hr
    · exact Or.inl hr
    · rcases List.mem_append.mp hr with hr | hr
      · exact Or.inl hr
      · rw [List.mem_singleton] at hr
        exact Or.inr (hr ▸ here)
  | start q here idle claimed => exact Or.inl (by rwa [claimed] at hr)
  | close v here cancelled =>
    rw [cancelled] at hr
    exact Or.inl (List.mem_filter.mp hr).1
  | free q here owner empty freed => exact Or.inl (by rwa [freed] at hr)
  | replay q here owner next handed =>
    rw [handed.queue] at hr
    exact Or.inl (List.mem_of_mem_erase hr)

theorem queued_letGo (s : Session) (k : Nat) (st : Stage) :
    (s.letGo k st).schedule.queued = s.schedule.queued := by
  cases hp : st.pass? with
  | none => rw [schedule_letGo_of_none s k hp]
  | some p => rw [schedule_letGo_of_pass s k hp, Schedule.queued_drop]

theorem queued_snoc {r : Request} (a : Action)
    (h : r ∈ (after (as ++ [a])).schedule.queued) :
    r ∈ (after as).schedule.queued ∨ Called r as := by
  rw [after_snoc] at h
  have fresh : ∀ k, (after as).tasks.get? k = some (.fresh (.validate r)) → Called r as :=
    fun _ found => called_of_fresh found
  have hs := step_act (after as) a
  generalize ((after as).act a).1 = t, ((after as).act a).2 = es at *
  cases hs with
  | known | rest | unheard | idle | gone | openDocument | invalidate => exact Or.inl h
  | call | answer | linted => exact Or.inl (by rwa [schedule_put] at h)
  | advance id st found ready t next moves =>
    rw [schedule_put] at h
    refine (moves.trades.queued h).imp_right ?_
    rintro rfl
    exact fresh id found
  | drop id st found => exact Or.inl (by rwa [queued_letGo] at h)
  | changeText v text version =>
    rcases changeText_cases (after as) v text version with he | ⟨d, he⟩ <;> rw [he] at h <;>
      exact Or.inl h
  | reload files root => exact Or.inl (by rwa [reload_eq] at h)

theorem called_of_queued (as : List Action) {r : Request}
    (h : r ∈ (after as).schedule.queued) : Called r as := by
  induction as using List.reverseRecOn with
  | nil => cases h
  | append_singleton as a ih =>
    rcases queued_snoc a h with hq | called
    · exact (ih hq).snoc a
    · exact called.snoc a

theorem Arisen.congr (h : Arisen q as) (he : p.unnumbered = q.unnumbered) : Arisen p as := by
  obtain ⟨called, pre, hpre, document, ahead⟩ := h
  have hr : p.request = q.request := congrArg (·.request) he
  have hd : p.document = q.document := congrArg (·.document) he
  have ht : p.ticket = q.ticket := congrArg (·.ticket) he
  refine ⟨hr ▸ called, pre, hpre, ?_, ht ▸ ahead⟩
  rw [hd, document, Pass.url, Pass.url, hr]

theorem Opens.arisen (h : Opens (after as) st next p)
    (found : (after as).tasks.get? k = some st) : Arisen p as := by
  refine ⟨?_, as, List.prefix_refl as, h.document, ?_⟩
  · rcases h.request with rfl | queued
    · exact called_of_fresh found
    · exact called_of_queued as queued
  · rw [h.ticket]
    exact deeds_of_unissued as (Nat.lt_succ_self _)

theorem Arisen.snoc (h : Arisen p as) (a : Action) : Arisen p (as ++ [a]) := by
  obtain ⟨called, pre, hpre, document, ahead⟩ := h
  exact ⟨called.snoc a, pre, hpre.trans (List.prefix_append as [a]), document, ahead⟩

theorem arisen_after (as : List Action) (found : (after as).tasks.get? k = some st)
    (hp : st.pass? = some p) : Arisen p as := by
  induction as using List.reverseRecOn generalizing k st p with
  | nil => cases found
  | append_singleton as a ih =>
    rw [after_snoc] at found
    refine Arisen.snoc ?_ a
    cases (step_act (after as) a).arises found with
    | stays a there => exact ih there hp
    | called job fresh =>
      subst fresh
      cases hp
    | moved old t there ready moves result sight =>
      rcases moves.trades.comes hp with ⟨q, hq, he⟩ | opens
      · exact (ih there hq).congr he
      · exact opens.arisen there
    | answered c plan x there back =>
      subst back
      rw [pass?_back c] at hp
      exact ih there hp
    | linted q settings there ended =>
      subst ended
      exact ih there hp

theorem Does.running (h : Does as k st t next)
    (running : ∀ l st p, (after as).tasks.get? l = some st → st.pass? = some p →
      Sofar p st (deeds p.ticket as)) {l : Nat} {st' : Stage}
    (found : (after (as ++ [.advance k])).tasks.get? l = some st') (hp : st'.pass? = some p) :
    Sofar p st' (deeds p.ticket (as ++ [.advance k])) := by
  rcases tasks_put_cases (h.result ▸ found) with ⟨rfl, rfl⟩ | ⟨hl, there⟩
  · have hn : st'.ticket? = some p.ticket := congrArg (Option.map Pass.ticket) hp
    have issued : ∀ q, st.pass? = some q → q.ticket ≤ (after as).schedule.lastTicket :=
      fun q hq => (held_after as).issued _ _ _ (holds_of_pass h.found hq rfl)
    rcases h.moves.trades.comes hp with ⟨q, hq, he⟩ | opens
    · have ht : p.ticket = q.ticket := congrArg (·.ticket) he
      have hst : st.ticket? = some p.ticket := ht ▸ congrArg (Option.map Pass.ticket) hq
      rcases h.moves.sofar (running _ st q h.found hq) (issued q hq) with
        ⟨p', hp', _, sofar⟩ | ⟨gone, _⟩
      · rw [hp, Option.some.injEq] at hp'
        subst hp'
        rwa [h.adds, if_pos hst, if_pos hn, ht]
      · exact (gone (ht ▸ hn)).elim
    · have hst : st.ticket? ≠ some p.ticket := by
        intro same
        obtain ⟨q, hq, ht⟩ := Option.map_eq_some_iff.mp same
        have := issued q hq
        have := opens.ticket
        omega
      rw [h.adds, if_neg hst, if_pos hn, opens.ticket, deeds_of_unissued as (Nat.lt_succ_self _)]
      exact opens.sofar
  · rw [h.moves.tasks] at there
    rw [deeds_snoc_of_apart]
    · exact running l st' p there hp
    · rintro n u ⟨⟩ hh
      exact hl ((held_after as).apart _ _ _ _ _ (holds_of_pass there hp rfl) hh)
    · rintro n u ⟨⟩ hh
      exact hl ((held_after _).apart _ _ _ _ _ (holds_of_pass found hp rfl) hh)

theorem sofar_after (as : List Action) (found : (after as).tasks.get? k = some st)
    (hp : st.pass? = some p) : Sofar p st (deeds p.ticket as) := by
  induction as using List.reverseRecOn generalizing k st p with
  | nil => cases found
  | append_singleton as a ih =>
    rcases does_or_still as a with ⟨l, old, t, next, rfl, does⟩ | ⟨still, same⟩
    · exact does.running (fun _ _ _ found hp => ih found hp) found hp
    · rw [show deeds p.ticket (as ++ [a]) = deeds p.ticket as from congrArg (under p.ticket) same]
      rw [after_snoc] at found
      cases (step_act (after as) a).arises found with
      | stays a there => exact ih there hp
      | called job fresh =>
        subst fresh
        cases hp
      | moved old t there ready moves result sight =>
        rw [still k old rfl there] at ready
        cases ready
      | answered c plan x there back =>
        subst back
        rw [pass?_back c] at hp
        exact (ih there hp).back x
      | linted q settings there ended =>
        subst ended
        exact (ih there hp).lint

theorem Does.ended (h : Does as k st t next) {m : Nat}
    (ended : deeds m as ≠ [] → (∀ l u, ¬ (after as).holds l u m) →
      ∃ p, p.ticket = m ∧ Arisen p as ∧ Whole p (deeds m as))
    (begun : deeds m (as ++ [.advance k]) ≠ [])
    (unheld : ∀ l u, ¬ (after (as ++ [.advance k])).holds l u m) :
    ∃ p, p.ticket = m ∧ Arisen p (as ++ [.advance k]) ∧ Whole p (deeds m (as ++ [.advance k])) := by
  have hn : next.ticket? ≠ some m := by
    intro same
    obtain ⟨u, hu⟩ := ticket?_iff.mp same
    refine unheld k u ?_
    rw [h.result]
    exact (holds_put h.moves.tasks k u m).mpr (Or.inr ⟨rfl, hu⟩)
  by_cases hst : st.ticket? = some m
  · obtain ⟨q, hq, rfl⟩ := Option.map_eq_some_iff.mp hst
    have issued := (held_after as).issued _ _ _ (holds_of_pass h.found hq rfl)
    rcases h.moves.sofar (sofar_after as h.found hq) issued with ⟨p, hp, ht, _⟩ | ⟨_, whole⟩
    · exact (hn (ht ▸ congrArg (Option.map Pass.ticket) hp)).elim
    · refine ⟨q, rfl, (arisen_after as h.found hq).snoc _, ?_⟩
      rwa [h.adds, if_pos hst, if_neg hn, List.append_nil]
  · have before : ∀ l u, ¬ (after as).holds l u m := by
      intro l u hh
      refine unheld l u ?_
      rw [h.result]
      refine (holds_put h.moves.tasks l u m).mpr (Or.inl ⟨hh, ?_⟩)
      rintro rfl
      obtain ⟨old, found, hu⟩ := hh
      rw [h.found, Option.some.injEq] at found
      subst found
      exact hst (ticket?_iff.mpr ⟨u, hu⟩)
    have same : deeds m (as ++ [.advance k]) = deeds m as :=
      deeds_snoc_of_apart (fun l u _ => before l u) fun l u _ => unheld l u
    rw [same] at begun ⊢
    obtain ⟨p, hp, arisen, whole⟩ := ended begun before
    exact ⟨p, hp, arisen.snoc _, whole⟩

theorem schedule_still (kept : ∀ k, a ≠ .drop k)
    (still : ∀ k st, a = .advance k → (after as).tasks.get? k = some st →
      (after as).canGoOn k st = false) :
    (after (as ++ [a])).schedule = (after as).schedule ∧
      (after (as ++ [a])).lastNumber = (after as).lastNumber := by
  rw [after_snoc]
  have hs := step_act (after as) a
  generalize after as = s at *
  generalize (s.act a).1 = t, (s.act a).2 = es at *
  cases hs with
  | known | rest | unheard | idle | gone | openDocument | invalidate => exact ⟨rfl, rfl⟩
  | call | answer | linted =>
    rw [put_eq]
    exact ⟨rfl, rfl⟩
  | advance id st found ready =>
    rw [still id st rfl found] at ready
    cases ready
  | drop id => exact (kept id rfl).elim
  | changeText v text version =>
    rcases changeText_cases s v text version with he | ⟨d, he⟩ <;> rw [he] <;> exact ⟨rfl, rfl⟩
  | reload files root =>
    rw [reload_eq]
    exact ⟨rfl, rfl⟩

/-- As long as no task goes on, and none is dropped, nothing becomes of the tasks but that calls
return and that linting ends. -/
theorem tasks_still {β : Type} {f : Stage → Option β} (done : ∀ v, f (.done v) = none)
    (fresh : ∀ job, f (.fresh job) = none)
    (back : ∀ c plan x, f (.back plan x) = f (.calling c plan))
    (lint : ∀ p settings, f (.linted p settings) = f (.linting p settings))
    (kept : ∀ k, a ≠ .drop k)
    (still : ∀ k st, a = .advance k → (after as).tasks.get? k = some st →
      (after as).canGoOn k st = false) (k : Nat) (x : β) :
    (∃ st, (after (as ++ [a])).tasks.get? k = some st ∧ f st = some x) ↔
      ∃ st, (after as).tasks.get? k = some st ∧ f st = some x := by
  rw [after_snoc]
  have hs := step_act (after as) a
  generalize after as = s at *
  generalize (s.act a).1 = t, (s.act a).2 = es at *
  cases hs with
  | known | rest | unheard | idle | gone | openDocument | invalidate => rfl
  | call id job new =>
    rw [exists_put done rfl, fresh]
    constructor
    · rintro (⟨h, _⟩ | ⟨_, h⟩)
      · exact h
      · cases h
    · intro h
      refine Or.inl ⟨h, ?_⟩
      rintro rfl
      obtain ⟨st, found, _⟩ := h
      rw [contains_eq_false.mp new] at found
      cases found
  | advance id st found ready =>
    rw [still id st rfl found] at ready
    cases ready
  | answer id y c plan found => exact exists_put_same done rfl found (back c plan y) k x
  | linted id p settings found => exact exists_put_same done rfl found (lint p settings) k x
  | drop id => exact (kept id rfl).elim
  | changeText v text version =>
    rcases changeText_cases s v text version with he | ⟨d, he⟩
    · rw [he]
    · rw [he]
      rfl
  | reload files root => rw [reload_eq]

/-- A pass that has done something, and that no task is at any more, is over, if no task has been
dropped. -/
theorem whole_after (as : List Action) (kept : ∀ k, .drop k ∉ as) {m : Nat}
    (begun : deeds m as ≠ []) (unheld : ∀ k u, ¬ (after as).holds k u m) :
    ∃ p, p.ticket = m ∧ Arisen p as ∧ Whole p (deeds m as) := by
  induction as using List.reverseRecOn with
  | nil => exact (begun rfl).elim
  | append_singleton as a ih =>
    have ih := ih fun k hk => kept k (List.mem_append_left _ hk)
    rcases does_or_still as a with ⟨k, st, t, next, rfl, does⟩ | ⟨still, same⟩
    · exact does.ended ih begun unheld
    · have kept : ∀ k, a ≠ .drop k := by
        rintro k rfl
        exact kept k (by simp)
      have hd : deeds m (as ++ [a]) = deeds m as := congrArg (under m) same
      rw [hd] at begun ⊢
      obtain ⟨p, hp, arisen, whole⟩ := ih begun fun k u hh => unheld k u <|
        (tasks_still (fun _ => rfl) (fun _ => rfl) holding?_back (fun _ _ => rfl) kept still k
          (u, m)).mpr hh
      exact ⟨p, hp, arisen.snoc a, whole⟩

theorem pass_after (as : List Action) (kept : ∀ k, .drop k ∉ as) {m : Nat}
    (begun : deeds m as ≠ []) : ∃ p, p.ticket = m ∧ Arisen p as ∧
      ((∃ k st, (after as).tasks.get? k = some st ∧ st.pass? = some p ∧ Sofar p st (deeds m as)) ∨
        (∀ k u, ¬ (after as).holds k u m) ∧ Whole p (deeds m as)) := by
  by_cases held : ∃ k u, (after as).holds k u m
  · obtain ⟨k, u, st, found, hh⟩ := held
    obtain ⟨p, hp, he⟩ := Option.map_eq_some_iff.mp hh
    cases he
    exact ⟨p, rfl, arisen_after as found hp, Or.inl ⟨k, st, found, hp, sofar_after as found hp⟩⟩
  · have unheld : ∀ k u, ¬ (after as).holds k u m := fun k u hh => held ⟨k, u, hh⟩
    obtain ⟨p, hp, arisen, whole⟩ := whole_after as kept begun unheld
    exact ⟨p, hp, arisen, Or.inr ⟨unheld, whole⟩⟩

end Considerate.Session
