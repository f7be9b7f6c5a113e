import Considerate.Proofs.Session.Shown
import Considerate.Proofs.Session.Turns

namespace Considerate

def Stage.change? : Stage → Option (Url × Change)
  | .store (.change u c _) => some (u, c)
  | _ => none

namespace Session

/-- A change of the diagnostics of a document. -/
structure Write where
  task : Nat
  url : Url
  left : List Diagnostic

/-- The change of diagnostics that an action makes: that of a task which is at the store for one
and goes on there in its turn. -/
def written? (s : Session) : Action → Option Write
  | .advance id =>
    (s.tasks.get? id).bind fun st =>
      match st.change? with
      | some (u, c) =>
        if s.canGoOn id st && (s.turns.request id).isHeldBy id && c.isOfDiagnostics then
          some ⟨id, u, ((s.act (.advance id)).1.store.findings u).diagnostics⟩
        else none
      | none => none
  | _ => none

/-- What happens at the store. -/
inductive Mark where
  | taken (id : Nat)
  | wrote (w : Write)

def Mark.write? : Mark → Option Write
  | .taken _ => none
  | .wrote w => some w

/-- What an action does at the store: who gets the turn, and then what changes. -/
def marksOf (s : Session) (a : Action) : List Mark :=
  (Turns.newHolder s.turns (s.act a).1.turns).map Mark.taken ++ (s.written? a).toList.map Mark.wrote

/-- All that has happened at the store, the last at the end. -/
def marks (as : List Action) : List Mark :=
  gather (fun (s : Session) a => (s.act a).1) marksOf {} as

/-- Each change comes directly after its task has come to hold the store. -/
def InOrder (ms : List Mark) : Prop :=
  ∀ earlier w later, ms = earlier ++ .wrote w :: later → earlier.getLast? = some (.taken w.task)

/-- All changes of diagnostics, the last at the end. -/
def writes (as : List Action) : List Write := (marks as).filterMap Mark.write?

theorem marks_snoc (as : List Action) (a : Action) :
    marks (as ++ [a]) = marks as ++ (after as).marksOf a := by
  rw [marks, gather_snoc]
  rfl

theorem writes_snoc (as : List Action) (a : Action) :
    writes (as ++ [a]) = writes as ++ ((after as).written? a).toList := by
  rw [writes, marks_snoc, List.filterMap_append, marksOf, List.filterMap_append]
  have ht : ∀ ids : List Nat, (ids.map Mark.taken).filterMap Mark.write? = [] := by
    intro ids
    simp [List.filterMap_map, Function.comp_def, Mark.write?]
  rw [ht, List.nil_append]
  cases (after as).written? a <;> rfl

variable {s t : Session} {id : Nat} {st next : Stage}

theorem eq_of_change? {u : Url} {c : Change} (h : st.change? = some (u, c)) :
    ∃ plan, st = .store (.change u c plan) := by
  unfold Stage.change? at h
  split at h
  · rename_i u' c' plan
    rw [Option.some.injEq, Prod.mk.injEq] at h
    obtain ⟨rfl, rfl⟩ := h
    exact ⟨plan, rfl⟩
  · cases h

/-- What an action does with the diagnostics that are stored, and what it shows. -/
inductive Writing (s : Session) (a : Action) (t : Session) (es : List Effect) : Prop
  | nothing (unwritten : s.written? a = none) (silent : ∀ u, shownIn u es = [])
      (kept : ∀ u, (t.store.findings u).diagnostics = (s.store.findings u).diagnostics)
      (absent : ∀ u, s.store.get? u = none → t.store.get? u = none)
  | writes (id : Nat) (u : Url) (ds : List Diagnostic) (here : a = .advance id)
      (turn : (s.turns.request id).isHeldBy id = true) (held : t.turns = s.turns.request id)
      (there : ∃ x, s.tasks.get? id = some (.store x))
      (past : ∃ st, t.tasks.get? id = some st ∧ st.isAtStore = false)
      (written : s.written? a = some ⟨id, u, ds⟩) (shown : ∀ v, shownIn v es = if v = u then [ds] else [])
      (stored : (t.store.findings u).diagnostics = ds)
      (others : ∀ v, v ≠ u → t.store.get? v = s.store.get? v)

/-- A task that is at the store for a change has to wait, or it makes the change, which is shown if
it concerns the diagnostics. -/
theorem Moves.change_cases {u : Url} {c : Change} {plan : Plan}
    (h : Moves s id (.store (.change u c plan)) t next) :
    ((s.turns.request id).isHeldBy id = false ∧ t.store = s.store ∧ Silent next) ∨
    ((s.turns.request id).isHeldBy id = true ∧ c.isOfDiagnostics = false ∧
      s.store.change u c = (t.store, none) ∧ Silent next) ∨
    ((s.turns.request id).isHeldBy id = true ∧ c.isOfDiagnostics = true ∧
      t.turns = s.turns.request id ∧ ∃ ds, s.store.change u c = (t.store, some ds) ∧
        next = .calling (.publish u ds) (.shown plan)) := by
  cases h with
  | queue a busy => exact Or.inl ⟨busy, rfl, fun _ _ => rfl⟩
  | keep u c plan turn store changed t next resumes =>
    have hc := s.store.isSome_shown u c
    rw [changed] at hc
    rw [changed, resumes.store]
    exact Or.inr (Or.inl ⟨turn, hc.symm, rfl, resumes.silent⟩)
  | publish u c plan turn store ds changed =>
    have hc := s.store.isSome_shown u c
    rw [changed] at hc
    exact Or.inr (Or.inr ⟨turn, hc.symm, rfl, ds, changed, rfl⟩)

/-- A task that is not at the store for a change shows nothing and leaves the store alone. -/
theorem Moves.elsewhere (h : Moves s id st t next) (away : st.change? = none) :
    t.store = s.store ∧ Silent next := by
  cases h.writes with
  | nothing same silent => exact ⟨same, silent⟩
  | publish u c plan here | keep u c plan here =>
    subst here
    cases away

theorem Writing.of_store {a : Action} {es : List Effect} (unwritten : s.written? a = none)
    (silent : ∀ u, shownIn u es = []) (same : t.store = s.store) : Writing s a t es :=
  .nothing unwritten silent (fun _ => by rw [same]) (fun _ hn => by rw [same, hn])

theorem written?_advance (found : s.tasks.get? id = some st) (ready : s.canGoOn id st = true) :
    s.written? (.advance id) =
      match st.change? with
      | some (u, c) =>
        if (s.turns.request id).isHeldBy id && c.isOfDiagnostics then
          some ⟨id, u, ((s.advance id st).1.store.findings u).diagnostics⟩
        else none
      | none => none := by
  simp only [written?, found, act_advance found ready, ready, Option.bind_some, Bool.true_and,
    store_put]

theorem writing_advance (found : s.tasks.get? id = some st) (ready : s.canGoOn id st = true) :
    Writing s (.advance id) (s.act (.advance id)).1 (s.act (.advance id)).2 := by
  have moves := moves_advance s id st ready
  have written := written?_advance found ready
  rw [act_advance found ready]
  generalize (s.advance id st).1 = t, (s.advance id st).2 = next at *
  have silent : Silent next → ∀ (ids : List Nat) u, shownIn u (ids.map .woken ++ seen id next) = [] := by
    intro hs ids u
    rw [shownIn_woken]
    exact hs u id
  cases hc : st.change? with
  | none =>
    rw [hc] at written
    obtain ⟨same, hs⟩ := moves.elsewhere hc
    exact .of_store written (silent hs _) (by rw [store_put, same])
  | some uc =>
    obtain ⟨u, c⟩ := uc
    obtain ⟨plan, rfl⟩ := eq_of_change? hc
    rw [hc] at written
    rcases moves.change_cases with ⟨busy, same, hs⟩ | ⟨turn, off, changed, hs⟩ |
      ⟨turn, on, held, ds, changed, rfl⟩
    · refine .of_store ?_ (silent hs _) (by rw [store_put, same])
      simpa [busy] using written
    · have hn : (s.store.change u c).2 = none := by rw [changed]
      obtain ⟨hd, ha⟩ := s.store.kept_of_not_shown u hn
      rw [changed] at hd ha
      refine .nothing (by simpa [off] using written) (silent hs _) ?_ ?_
      · intro v
        rw [store_put]
        by_cases hv : v = u
        · rw [hv, hd]
        · have := s.store.findings_change_ne hv c
          rw [changed] at this
          rw [this]
      · intro v hv
        rw [store_put]
        by_cases hu : v = u
        · subst hu
          exact ha hv
        · have := s.store.get?_change_ne hu c
          rw [changed] at this
          rw [this, hv]
    · have hd := s.store.diagnostics_of_shown u (congrArg Prod.snd changed)
      rw [changed] at hd
      refine .writes id u ds rfl turn (by rw [turns_put, held]) ⟨_, found⟩
        ⟨_, found_put_self (Or.inr rfl), rfl⟩ ?_ ?_ ?_ ?_
      · rw [written]
        simp [turn, on, hd]
      · intro v
        rw [shownIn_woken]
        by_cases hv : v = u
        · simp [hv]
        · rw [shownIn_publish_ne (Ne.symm hv), if_neg hv]
      · rw [store_put, hd]
      · intro v hv
        have := s.store.get?_change_ne hv c
        rw [changed] at this
        rw [store_put, this]

theorem written?_of_stuck (stuck : ∀ st, s.tasks.get? id = some st → s.canGoOn id st = false) :
    s.written? (.advance id) = none := by
  cases found : s.tasks.get? id with
  | none => simp [written?, found]
  | some st =>
    have ready := stuck st found
    simp only [written?, found, Option.bind_some, ready, Bool.false_and]
    cases st.change? <;> rfl

theorem shownIn_wake (u : Url) (ids : List Nat) : shownIn u (ids.map .woken) = [] := by
  have h := shownIn_woken u ids []
  rw [List.append_nil] at h
  exact h

theorem store_letGo (s : Session) (id : Nat) (st : Stage) : (s.letGo id st).store = s.store := by
  unfold letGo
  cases st.cell? <;> cases st.pass? <;> rfl

theorem Step.still {a : Action} {es : List Effect} (h : Step s a t es)
    (ha : ∀ id, a ≠ .advance id) : t.store = s.store ∧ ∀ u, shownIn u es = [] := by
  cases h with
  | advance id | rest id => exact (ha id rfl).elim
  | known | unheard | idle | gone | openDocument | invalidate => exact ⟨rfl, fun _ => rfl⟩
  | call | answer | linted => exact ⟨store_put .., fun _ => rfl⟩
  | drop id st found => exact ⟨store_letGo .., fun u => shownIn_wake u _⟩
  | changeText v text version =>
    refine ⟨?_, fun _ => rfl⟩
    rcases changeText_cases s v text version with he | ⟨d, he⟩ <;> rw [he]
    rfl
  | reload files root =>
    refine ⟨?_, fun _ => rfl⟩
    rw [reload_eq]

theorem writing_act (s : Session) (a : Action) : Writing s a (s.act a).1 (s.act a).2 := by
  by_cases ha : ∃ id, a = .advance id
  · obtain ⟨id, rfl⟩ := ha
    by_cases stuck : ∀ st, s.tasks.get? id = some st → s.canGoOn id st = false
    · rw [act_stuck stuck]
      exact .of_store (written?_of_stuck stuck) (fun _ => rfl) rfl
    · simp only [not_forall, Bool.not_eq_false] at stuck
      obtain ⟨st, found, ready⟩ := stuck
      exact writing_advance found ready
  · have hne : ∀ id, a ≠ .advance id := fun id he => ha ⟨id, he⟩
    obtain ⟨same, silent⟩ := (step_act s a).still hne
    refine .of_store ?_ silent same
    cases a with
    | advance id => exact (hne id rfl).elim
    | _ => rfl

/-- Only a task that goes on changes what is stored for a document, or what is shown for it. -/
theorem advance_or_still (u : Url) (as : List Action) (a : Action) :
    (∃ k st t next, a = .advance k ∧ GoesOn as k st t next) ∨
    (∀ k st, a = .advance k → (after as).tasks.get? k = some st →
        (after as).canGoOn k st = false) ∧
      (after (as ++ [a])).store.get? u = (after as).store.get? u ∧
      published u (as ++ [a]) = published u as := by
  by_cases ready : ∃ k st, a = .advance k ∧ (after as).tasks.get? k = some st ∧
      (after as).canGoOn k st = true
  · obtain ⟨k, st, rfl, found, ready⟩ := ready
    exact Or.inl ⟨k, st, _, _, rfl, goesOn_of_ready found ready⟩
  · right
    have stuck : ∀ k st, a = .advance k → (after as).tasks.get? k = some st →
        (after as).canGoOn k st = false := fun k st ha found =>
      Bool.eq_false_iff.mpr fun hr => ready ⟨k, st, ha, found, hr⟩
    refine ⟨stuck, ?_⟩
    rw [after_snoc, published_after]
    by_cases ha : ∃ k, a = .advance k
    · obtain ⟨k, rfl⟩ := ha
      rw [act_stuck fun st => stuck k st rfl]
      exact ⟨rfl, List.append_nil _⟩
    · obtain ⟨same, silent⟩ := (step_act (after as) a).still fun k he => ha ⟨k, he⟩
      rw [same, silent, List.append_nil]
      exact ⟨rfl, rfl⟩

/-- What the editor shows for a document is what is stored for it, and nothing is stored for one of
which nothing was ever shown. -/
theorem stored_after (u : Url) (as : List Action) :
    (∀ ds, (published u as).getLast? = some ds →
      ((after as).store.findings u).diagnostics = ds) ∧
    (published u as = [] → (after as).store.get? u = none) := by
  induction as using List.reverseRecOn with
  | nil =>
    refine ⟨?_, fun _ => rfl⟩
    intro ds hd
    cases hd
  | append_singleton as a ih =>
    obtain ⟨hlast, hnone⟩ := ih
    rw [published_after, after_snoc]
    cases writing_act (after as) a with
    | nothing unwritten silent kept absent =>
      rw [silent, List.append_nil]
      refine ⟨?_, fun hp => absent u (hnone hp)⟩
      intro ds hd
      rw [kept]
      exact hlast ds hd
    | writes id v ds here turn held there past written shown stored others =>
      rw [shown]
      by_cases hu : u = v
      · subst hu
        rw [if_pos rfl]
        refine ⟨?_, fun hp => by simp at hp⟩
        intro ds' hd
        rw [List.getLast?_concat, Option.some.injEq] at hd
        rw [stored, hd]
      · rw [if_neg hu, List.append_nil]
        have hf := others u hu
        refine ⟨?_, fun hp => hf.trans (hnone hp)⟩
        intro ds' hd
        simp only [Store.findings, hf]
        exact hlast ds' hd

/-- The publications for a document are what the changes of its diagnostics leave. -/
theorem published_eq_writes (u : Url) (as : List Action) :
    published u as = ((writes as).filter fun w => w.url = u).map Write.left := by
  induction as using List.reverseRecOn with
  | nil => rfl
  | append_singleton as a ih =>
    rw [published_after, writes_snoc, List.filter_append, List.map_append, ih]
    congr 1
    cases writing_act (after as) a with
    | nothing unwritten silent kept absent => simp [unwritten, silent]
    | writes id v ds here turn held there past written shown stored others =>
      rw [written, shown]
      by_cases hu : u = v
      · simp [hu]
      · simp [hu, Ne.symm hu]

/-- A task that goes on in its turn does not come to be at the store in the same turn. -/
theorem Queues.turn_ends (h : Queues s id st t next) (inTurn : InTurn s)
    (found : s.tasks.get? id = some st) (had : s.turns.holder = some id)
    (there : next.isAtStore = true) : t.turns.holder ≠ some id := by
  cases h with
  | apart same off quiet silent => exact (inTurn.holder_ne found off quiet had).elim
  | waits at' busy requested same =>
    have hturn := Turns.isHeldBy_request.mpr (Or.inr had)
    rw [busy] at hturn
    cases hturn
  | shows u c plan here turn requested showing off =>
    rw [off] at there
    cases there
  | leaves at' turn passed silent =>
    have hn := (inTurn.orderly.request id).not_waiting (Turns.isHeldBy_iff.mp turn)
    rw [passed, Turns.holder_pass]
    exact fun hh => hn (List.mem_of_mem_head? hh)
  | returns showing passed silent =>
    have hn := inTurn.orderly.not_waiting had
    rw [passed, Turns.holder_pass]
    exact fun hh => hn (List.mem_of_mem_head? hh)

/-- A task that holds the store for a work that it has not done yet has just come to hold it. -/
theorem taken_last (as : List Action) {x : Access} (held : (after as).turns.holder = some id)
    (found : (after as).tasks.get? id = some (.store x)) :
    (marks as).getLast? = some (.taken id) := by
  induction as using List.reverseRecOn with
  | nil => cases held
  | append_singleton as a ih =>
    have inTurn := inTurn_after as
    rw [marks_snoc]
    rw [after_snoc] at held found
    have unwritten : (after as).written? a = none := by
      cases writing_act (after as) a with
      | nothing unwritten => exact unwritten
      | writes k v ds here turn kept there past written shown stored others =>
        rw [kept, Turns.isHeldBy_iff.mp turn, Option.some.injEq] at held
        subst held
        obtain ⟨st, hs, off⟩ := past
        rw [found, Option.some.injEq] at hs
        subst hs
        cases off
    by_cases same : ((after as).act a).1.turns.holder = (after as).turns.holder
    · have hm : (after as).marksOf a = [] := by
        simp [marksOf, Turns.newHolder, same, unwritten]
      rw [hm, List.append_nil]
      have had := same.symm.trans held
      apply ih had
      cases (step_act (after as) a).arises found with
      | stays a found' => exact found'
      | called job fresh => cases fresh
      | moved old t found' ready moves result sight =>
        rw [result, turns_put] at held
        exact (moves.queues.turn_ends inTurn found' had rfl held).elim
      | answered c plan y found' back => cases back
      | linted p settings found' ended => cases ended
    · have hm : (after as).marksOf a = [.taken id] := by
        rw [held] at same
        simp [marksOf, Turns.newHolder, same, held, unwritten]
      rw [hm, List.getLast?_concat]

/-- When a task changes something, it has come to hold the store directly before. -/
theorem taken_of_written (as : List Action) {a : Action} {w : Write}
    (written : (after as).written? a = some w) :
    (marks as ++ (Turns.newHolder (after as).turns ((after as).act a).1.turns).map
      Mark.taken).getLast? = some (.taken w.task) := by
  cases writing_act (after as) a with
  | nothing unwritten =>
    rw [unwritten] at written
    cases written
  | writes id v ds here turn held there past hw shown stored others =>
    rw [hw, Option.some.injEq] at written
    subst written
    have hheld : ((after as).act a).1.turns.holder = some id := by
      rw [held]
      exact Turns.isHeldBy_iff.mp turn
    rcases Turns.isHeldBy_request.mp turn with hn | hs
    · simp [Turns.newHolder, hheld, hn]
    · obtain ⟨x, found⟩ := there
      simpa [Turns.newHolder, hheld, hs] using taken_last as hs found

theorem InOrder.concat {ms : List Mark} {m : Mark} (h : InOrder ms)
    (hm : ∀ w, m = .wrote w → ms.getLast? = some (.taken w.task)) : InOrder (ms ++ [m]) := by
  intro earlier w later he
  rcases List.eq_nil_or_concat later with rfl | ⟨later, x, rfl⟩
  · obtain ⟨rfl, hx⟩ := List.append_inj' he rfl
    rw [List.cons.injEq] at hx
    exact hm w hx.1
  · have hx : ms ++ [m] = (earlier ++ .wrote w :: later) ++ [x] := by simpa using he
    obtain ⟨rfl, _⟩ := List.append_inj' hx rfl
    exact h earlier w later rfl

theorem inOrder_marks (as : List Action) : InOrder (marks as) := by
  induction as using List.reverseRecOn with
  | nil =>
    intro earlier w later h
    simp [marks, gather] at h
  | append_singleton as a ih =>
    have ht := fun w => taken_of_written as (a := a) (w := w)
    have hn : InOrder (marks as ++
        (Turns.newHolder (after as).turns ((after as).act a).1.turns).map Mark.taken) := by
      unfold Turns.newHolder
      split
      · rwa [List.map_nil, List.append_nil]
      · cases ((after as).act a).1.turns.holder with
        | none =>
          rw [Option.toList_none, List.map_nil, List.append_nil]
          exact ih
        | some k =>
          apply ih.concat
          intro w hw
          cases hw
    rw [marks_snoc, marksOf, ← List.append_assoc]
    cases hw : (after as).written? a with
    | none => simpa using hn
    | some w =>
      refine hn.concat ?_
      rintro w' ⟨⟩
      exact ht w hw

/-- What the editor shows is what is stored, at any time and for every document: its last publication
has the diagnostics that are stored, and one without any publication has no entry. The publications
are what the changes of its diagnostics leave, one for each, in the order in which the tasks come to
hold the store. -/
theorem shown_is_stored (as : List Action) (u : Url) :
    (∀ ds, (published u as).getLast? = some ds →
      ((after as).store.findings u).diagnostics = ds) ∧
    (published u as = [] → (after as).store.get? u = none) ∧
    published u as = ((writes as).filter fun w => w.url = u).map Write.left ∧
    InOrder (marks as) := by
  obtain ⟨hlast, hnone⟩ := stored_after u as
  exact ⟨hlast, hnone, published_eq_writes u as, inOrder_marks as⟩

end Session

end Considerate
