import Considerate.Proofs.Schedule.Held
import Considerate.Proofs.Session.Subject

namespace Considerate

/-- A pass up to the number that its statuses carry. -/
def Pass.unnumbered (p : Pass) : Pass := { p with number := 0 }

def Stage.holding? (st : Stage) : Option (Url × Nat) :=
  st.pass?.map fun p => (p.url, p.ticket)

namespace Session

def holds (s : Session) (k : Nat) (u : Url) (ticket : Nat) : Prop :=
  ∃ st, s.tasks.get? k = some st ∧ st.holding? = some (u, ticket)

variable {s t : Session} {id : Nat} {st next : Stage} {u : Url}

/-- What a task does with the schedule. -/
inductive Trades (s : Session) (st : Stage) (t : Session) (next : Stage) : Prop
  | nothing (begun : ∀ r, st ≠ .fresh (.validate r)) (same : t.schedule = s.schedule)
      (pass : next.pass?.map Pass.unnumbered = st.pass?.map Pass.unnumbered)
  | wait (r : Request) (here : st = .fresh (.validate r))
      (busy : s.schedule.isPending r.url = true) (queued : t.schedule = s.schedule.enqueue r)
      (ended : next = .done (.edits []))
  | start (r : Request) (here : st = .fresh (.validate r))
      (idle : s.schedule.isPending r.url = false) (claimed : t.schedule = (s.schedule.claim r).1)
      (v : Session) (documents : v.documents = s.documents)
      (begins : Begins v r (s.schedule.lastTicket + 1) t next)
  | close (v : Url) (here : st = .fresh (.close v)) (cancelled : t.schedule = s.schedule.cancel v)
      (holding : next.holding? = none)
  | stale (p : Pass) (here : st.pass? = some p) (old : s.schedule.owns p.url p.ticket = false)
      (same : t.schedule = s.schedule) (es : List Edit) (ended : next = .done (.edits es))
  | free (p : Pass) (here : st.pass? = some p) (owner : s.schedule.owns p.url p.ticket = true)
      (empty : s.schedule.queuedFor p.url = [])
      (freed : t.schedule = { s.schedule with pending := s.schedule.pending.erase p.url })
      (es : List Edit) (ended : next = .done (.edits es))
  | replay (p : Pass) (here : st.pass? = some p) (owner : s.schedule.owns p.url p.ticket = true)
      (r : Request) (handed : s.schedule.HandedOver p.url r t.schedule) (v : Session)
      (documents : v.documents = s.documents)
      (begins : Begins v r (s.schedule.lastTicket + 1) t next)

theorem holding?_of_unnumbered (h : next.pass?.map Pass.unnumbered = st.pass?.map Pass.unnumbered) :
    next.holding? = st.holding? := by
  have hh : ∀ st : Stage, st.holding? =
      (st.pass?.map Pass.unnumbered).map fun p => (p.url, p.ticket) := by
    intro st
    rw [Option.map_map]
    rfl
  rw [hh, hh, h]

theorem Begins.holding {r : Request} {ticket : Nat} (h : Begins s r ticket t st) :
    st.holding? = some (r.url, ticket) := by
  cases h <;> rfl

theorem Resumes.trades {v : Session} {plan : Plan} (h : Resumes v plan t next)
    (hd : v.documents = s.documents) (hs : v.schedule = s.schedule)
    (hp : st.pass? = plan.pass?) (hf : ∀ r, st ≠ .fresh (.validate r)) : Trades s st t next := by
  cases h with
  | announce p | absent p | gone p | want p | purge p | format p | record p | close p =>
    exact .nothing hf hs (by rw [hp]; rfl)
  | stale p es old => exact .stale p hp (hs ▸ old) hs es rfl
  | free p es owner empty => exact .free p hp (hs ▸ owner) (hs ▸ empty) (by rw [hs]) es rfl
  | replay p es owner r schedule handed t next begins =>
    have ht := begins.schedule
    simp only at ht
    rw [hs] at handed begins
    exact .replay p hp (hs ▸ owner) r (ht ▸ handed) { v with schedule } hd begins
  | finish v => exact .nothing hf hs (by rw [hp]; rfl)

theorem Moves.trades (h : Moves s id st t next) : Trades s st t next := by
  cases h with
  | wait r busy => exact .wait r rfl busy rfl rfl
  | start r idle t next begins =>
    exact .start r rfl idle begins.schedule { s with schedule := (s.schedule.claim r).1 } rfl begins
  | close v => exact .close v rfl rfl rfl
  | keep v c plan turn store changed t next resumes =>
    exact resumes.trades rfl rfl rfl (by simp)
  | shown plan x t next resumes => exact resumes.trades rfl rfl rfl (by simp)
  | told plan x t next resumes => exact resumes.trades rfl rfl rfl (by simp)
  | configured n reader x => cases reader <;> exact .nothing (by simp) rfl rfl
  | filled v n reader settings value => cases reader <;> exact .nothing (by simp) rfl rfl
  | ask v n reader empty turn => cases reader <;> exact .nothing (by simp) rfl rfl
  | queueForCell | settings | quickFix | read | change | queue | publish | unfound | apply
  | readNothing | readLast | readNext | applied | refused | fail | report | late =>
    exact .nothing (by simp) rfl rfl

theorem holds_put (ht : t.tasks = s.tasks) (k : Nat) (u : Url) (m : Nat) :
    (t.put id next).holds k u m ↔
      (s.holds k u m ∧ k ≠ id) ∨ k = id ∧ next.holding? = some (u, m) :=
  exists_put (fun _ => rfl) ht k (u, m)

theorem holding?_back (c : Call) (plan : Return) (x : Answer) :
    (Stage.back plan x).holding? = (Stage.calling c plan).holding? := by
  rw [Stage.holding?, Stage.holding?, pass?_back c]

/-- A task that comes to a stage with the same ticket changes nothing about the tickets. -/
theorem holds_put_same (ht : t.tasks = s.tasks) (found : s.tasks.get? id = some st)
    (hn : next.holding? = st.holding?) (k : Nat) (u : Url) (m : Nat) :
    (t.put id next).holds k u m ↔ s.holds k u m :=
  exists_put_same (fun _ => rfl) ht found hn k (u, m)

theorem holds_of_pass {p : Pass} (found : s.tasks.get? id = some st) (hp : st.pass? = some p)
    (hu : p.url = u) : s.holds id u p.ticket := by
  refine ⟨st, found, ?_⟩
  rw [Stage.holding?, hp, ← hu]
  rfl

theorem holds_only {p : Pass} (found : s.tasks.get? id = some st) (hp : st.pass? = some p)
    (v : Url) (m : Nat) (h : s.holds id v m) : v = p.url ∧ m = p.ticket := by
  obtain ⟨st', hs, hh⟩ := h
  rw [found, Option.some.injEq] at hs
  subst hs
  simp only [Stage.holding?, hp, Option.map_some, Option.some.injEq, Prod.mk.injEq] at hh
  exact ⟨hh.1.symm, hh.2.symm⟩

theorem not_holds_fresh {job : Job} (found : s.tasks.get? id = some (.fresh job)) (v : Url)
    (m : Nat) : ¬ s.holds id v m := by
  rintro ⟨st, hs, hh⟩
  rw [found, Option.some.injEq] at hs
  subst hs
  cases hh

theorem holds_put_over (ht : t.tasks = s.tasks) (hn : next.holding? = none) (k : Nat) (u : Url)
    (m : Nat) : (t.put id next).holds k u m ↔ s.holds k u m ∧ k ≠ id := by
  rw [holds_put ht, hn]
  simp

/-- Going on keeps the tickets held. -/
theorem held_move (h : s.schedule.Held s.holds) (found : s.tasks.get? id = some st)
    (ht : t.tasks = s.tasks) (moves : Trades s st t next) :
    (t.put id next).schedule.Held (t.put id next).holds := by
  rw [schedule_put]
  cases moves with
  | nothing begun same pass =>
    rw [same]
    exact h.congr (holds_put_same ht found (holding?_of_unnumbered pass))
  | wait r here busy queued ended =>
    subst here ended
    rw [queued]
    exact (h.enqueue r).congr (holds_put_same ht found rfl)
  | start r here idle claimed v documents begins =>
    subst here
    rw [claimed]
    refine (h.claim r id (not_holds_fresh found)).congr ?_
    intro k u m
    rw [holds_put ht, begins.holding]
    constructor
    · rintro (⟨hh, _⟩ | ⟨rfl, hh⟩)
      · exact Or.inl hh
      · cases hh
        exact Or.inr ⟨rfl, rfl, rfl⟩
    · rintro (hh | ⟨rfl, rfl, rfl⟩)
      · refine Or.inl ⟨hh, ?_⟩
        rintro rfl
        exact not_holds_fresh found u m hh
      · exact Or.inr ⟨rfl, rfl⟩
  | close v here cancelled holding =>
    subst here
    rw [cancelled]
    exact (h.cancel v).congr (holds_put_same ht found holding)
  | stale p here old same es ended =>
    subst ended
    rw [same]
    exact (h.stale (holds_only found here) old).congr (holds_put_over ht rfl)
  | free p here owner empty freed es ended =>
    subst ended
    rw [freed]
    exact (h.free (holds_only found here)).congr (holds_put_over ht rfl)
  | replay p here owner r handed v documents begins =>
    refine (h.hand_over (l := id) (holds_only found here) handed fun _ _ _ => rfl).congr ?_
    intro k u m
    rw [holds_put ht, begins.holding, handed.url]
    simp only [Option.some.injEq, Prod.mk.injEq, eq_comm]

theorem schedule_letGo_of_none (s : Session) (id : Nat) (hp : st.pass? = none) :
    (s.letGo id st).schedule = s.schedule := by
  simp only [letGo, hp]
  cases st.cell? <;> rfl

theorem schedule_letGo_of_pass (s : Session) (id : Nat) {p : Pass} (hp : st.pass? = some p) :
    (s.letGo id st).schedule = s.schedule.drop p.url p.ticket := by
  simp only [letGo, hp]
  cases st.cell? <;> rfl

theorem held_step {a : Action} {es : List Effect} (h : s.schedule.Held s.holds)
    (hs : Step s a t es) : t.schedule.Held t.holds := by
  cases hs with
  | known | rest | unheard | idle | gone | openDocument | invalidate => exact h
  | call id job new =>
    rw [schedule_put]
    refine h.congr fun k u m => ?_
    rw [holds_put rfl]
    constructor
    · rintro (⟨hh, _⟩ | ⟨_, hh⟩)
      · exact hh
      · cases hh
    · rintro ⟨st, hs, hh⟩
      refine Or.inl ⟨⟨st, hs, hh⟩, ?_⟩
      rintro rfl
      rw [contains_eq_false.mp new] at hs
      cases hs
  | advance id st found ready t next moves => exact held_move h found moves.tasks moves.trades
  | answer id x c plan found =>
    rw [schedule_put]
    exact h.congr (holds_put_same rfl found (holding?_back c plan x))
  | linted id p settings found =>
    rw [schedule_put]
    exact h.congr (holds_put_same rfl found rfl)
  | drop id st found =>
    have hw : ∀ k u m, ({ s with tasks := s.tasks.erase id }.letGo id st).holds k u m ↔
        s.holds k u m ∧ k ≠ id := by
      intro k u m
      simp only [holds, tasks_letGo]
      by_cases hk : k = id
      · subst hk
        simp
      · simp [Keyed.get?_erase_ne _ hk, hk]
    cases hp : st.pass? with
    | none =>
      rw [schedule_letGo_of_none _ _ hp]
      refine h.congr fun k u m => ?_
      rw [hw]
      refine ⟨And.left, fun hh => ⟨hh, ?_⟩⟩
      rintro rfl
      obtain ⟨st', hs, hh⟩ := hh
      rw [found, Option.some.injEq] at hs
      subst hs
      simp [Stage.holding?, hp] at hh
    | some p =>
      rw [schedule_letGo_of_pass _ _ hp]
      exact (h.drop (holds_only found hp)).congr hw
  | changeText u text version =>
    rcases changeText_cases s u text version with he | ⟨d, he⟩ <;> rw [he] <;> exact h
  | reload files root =>
    rw [reload_eq]
    exact h

/-- In every state that a session reaches, its tasks hold the tickets of its schedule. -/
theorem held_after (as : List Action) : (after as).schedule.Held (after as).holds := by
  induction as using List.reverseRecOn with
  | nil =>
    refine Schedule.Held.none.congr fun k u m => ⟨?_, False.elim⟩
    rintro ⟨st, hs, _⟩
    cases hs
  | append_singleton as a ih =>
    rw [after_snoc]
    exact held_step ih (step_act (after as) a)

end Session

end Considerate
