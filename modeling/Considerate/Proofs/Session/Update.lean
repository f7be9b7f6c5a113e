import Considerate.Proofs.Session.CaughtUp

namespace Considerate.Session

variable {s t : Session} {k : Nat} {st next : Stage} {u : Url} {d : Document} {as : List Action}

/-- A pass that has no report yet goes on without one, unless it has been linted: then it has a
report to store, or linting has failed. -/
theorem Moves.isBlank {p : Pass} (h : Moves s k st t next) (hc : Course p st)
    (blank : st.isBlank = true) (found : p.document = some d)
    (opened : s.documents.get? p.url = some d) :
    next.isBlank = true ∨
    (∃ settings e, st = .linted p settings ∧ lint p.url p.document settings = .error e) ∨
    ∃ r, next = .store (.change p.url (.replace r.diagnostics r.fixes) (.conclude p r)) := by
  have ho : s.isOpen p.url = true := by simp [isOpen, Keyed.contains, opened]
  cases hc with
  | clear | replace | purge | record => cases blank
  | replacing | replaced | purging | purged | closing | closed => cases blank
  | clearing | announcing | asking | linting => cases h
  | cleared x =>
    cases h with
    | shown plan x t next resumes =>
      cases resumes with
      | announce => exact Or.inl rfl
  | announced x =>
    cases h with
    | told plan x t next resumes =>
      cases resumes with
      | absent q missing =>
        rw [found] at missing
        cases missing
      | gone q d found closed =>
        rw [ho] at closed
        cases closed
      | want => exact Or.inl rfl
  | wanting n => cases h <;> exact Or.inl rfl
  | asked n x =>
    cases h
    exact Or.inl rfl
  | linted settings =>
    cases h with
    | fail p settings e failed => exact Or.inr (Or.inl ⟨settings, e, rfl, failed⟩)
    | report p settings r passed opened => exact Or.inr (Or.inr ⟨r, rfl⟩)
    | late p settings r passed closed =>
      rw [ho] at closed
      cases closed

theorem GoesOn.stored {c : Change} {o : List Diagnostic × Fixes} (h : GoesOn as k st t next)
    (hs : t.store = ((after as).store.change u c).1)
    (hn : shownIn u (seen k next) = [o.1])
    (ho : (((after as).store.change u c).1.findings u).diagnostics = o.1 ∧
      (((after as).store.change u c).1.findings u).fixes = o.2) :
    Stored u (as ++ [.advance k]) o := by
  refine ⟨?_, ?_, by rw [h.shown, hn, List.getLast?_concat]⟩
  · rw [h.store, hs, ho.1]
  · rw [h.store, hs, ho.2]

/-- What a pass shows for its document is nothing, and then it owes the findings, or what linting
gives. -/
theorem UpToDate.publish {p : Pass} {c : Change} {plan : Plan} {ds : List Diagnostic}
    (up : UpToDate u d as p (.store (.change u c plan)))
    (goes : GoesOn as k (.store (.change u c plan)) t (.calling (.publish u ds) (.shown plan)))
    (hc : Course p (.store (.change u c plan)))
    (changed : (after as).store.change u c = (t.store, some ds))
    (unclosed : Unclosed u (after (as ++ [.advance k]))) :
    Settled u d (as ++ [.advance k]) ∨
    Owes u (as ++ [.advance k]) (.calling (.publish u ds) (.shown plan)) := by
  have hs : t.store = ((after as).store.change u c).1 := by rw [changed]
  have hd : ((after as).store.change u c).2 = some ds := by rw [changed]
  cases hc with
  | clear plain =>
    rw [Store.shown_clear, Option.some.injEq] at hd
    subst hd
    exact Or.inr (.lint _ rfl (goes.stored hs (shownIn_publish ..) (by simp)) unclosed)
  | replace r =>
    rw [Store.shown_replace, Option.some.injEq] at hd
    subst hd
    obtain ⟨settings, hf, hl⟩ := up.report r rfl
    refine Or.inl ⟨settings, .kept _ _ _ hf (not_forgets_advance p.url k), ?_⟩
    rw [hl]
    exact goes.stored hs (shownIn_publish ..) (by simp [outcome])
  | purge => cases up.stays
  | record a =>
    rw [Store.shown_record] at hd
    cases hd

/-- When what linting gives is stored, a pass that goes on keeps it, unless it is about to take it
away: then it owes it. -/
theorem Settled.advance {p : Pass} (h : Settled u d as) (up : UpToDate u d as p st)
    (hc : Course p st) (hu : p.url = u) (goes : GoesOn as k st t next)
    (unclosed : Unclosed u (after (as ++ [.advance k]))) :
    Settled u d (as ++ [.advance k]) ∨ Owes u (as ++ [.advance k]) next := by
  have kept := not_forgets_advance u k
  cases goes.moves.writes with
  | nothing same silent =>
    obtain ⟨hf, hp⟩ := goes.nothing_shown same silent u
    exact Or.inl (h.keep kept hf hp)
  | publish v c plan here ds changed goal =>
    subst here goal hu
    have hv : v = p.url := by cases hc <;> rfl
    subst hv
    exact up.publish goes hc changed unclosed
  | keep v c plan here changed silent =>
    subst here hu
    have hd : ((after as).store.change v c).2 = none := by rw [changed]
    cases hc with
    | clear plain =>
      rw [Store.shown_clear] at hd
      cases hd
    | replace r => cases hd
    | purge => cases hd
    | record a =>
      have hs : t.store = ((after as).store.change p.url (.record a)).1 := by rw [changed]
      obtain ⟨settings, hf, ho⟩ := h
      refine Or.inl ⟨settings, .kept _ _ _ hf kept, ?_, ?_, ?_⟩
      · rw [goes.store, hs, Store.diagnostics_record, ho.diagnostics]
      · rw [goes.store, hs, Store.fixes_record, ho.fixes]
      · rw [goes.shown, silent, List.append_nil, ho.shown]

/-- After a pass for the document has had its turn in the store, no close is left. -/
theorem Tended.unclosed_of_turn {p : Pass} (h : Tended u (after as)) (goes : GoesOn as k st t next)
    (here : st.pass? = some p) (hu : p.url = u)
    (turn : ((after as).turns.request k).isHeldBy k = true) :
    Unclosed u (after (as ++ [.advance k])) :=
  (h.ahead.unclosed (inTurn_after as) (holds_of_pass goes.found here hu) turn).snoc h.about trivial

/-- A pass that owes what linting gives stores it or owes it still when it goes on. -/
theorem Owes.advance {p : Pass} (h : Owes u as st) (tended : Tended u (after as))
    (up : UpToDate u d as p st) (here : st.pass? = some p) (hu : p.url = u)
    (opened : (after as).documents.get? u = some d) (goes : GoesOn as k st t next) :
    (Settled u d (as ++ [.advance k]) ∧ Unclosed u (after (as ++ [.advance k]))) ∨
    Owes u (as ++ [.advance k]) next := by
  have moves := goes.moves
  have hc := onCourse_after as goes.found p here
  have first := tended.unclosed_of_turn goes here hu
  cases h with
  | clear q =>
    cases moves with
    | queue => exact Or.inr (.clear q)
    | publish v c plan turn store ds changed =>
      exact (up.publish goes hc changed (first turn)).imp_left fun hs => ⟨hs, first turn⟩
    | keep v c plan turn store changed =>
      have hd := congrArg Prod.snd changed
      rw [Store.shown_clear] at hd
      cases hd
  | replace q r =>
    cases moves with
    | queue => exact Or.inr (.replace q r)
    | publish v c plan turn store ds changed =>
      exact (up.publish goes hc changed (first turn)).imp_left fun hs => ⟨hs, first turn⟩
    | keep v c plan turn store changed => cases congrArg Prod.snd changed
  | lint st blank nothing unclosed =>
    subst hu
    have hn : Unclosed p.url (after (as ++ [.advance k])) := unclosed.snoc tended.about trivial
    obtain ⟨hf, hp⟩ := goes.nothing_stored (by rintro a rfl; cases a <;> cases blank) p.url
    rcases moves.isBlank hc blank up.document opened with hb | ⟨settings, e, rfl, hl⟩ | ⟨r, rfl⟩
    · exact Or.inr (.lint next hb (nothing.keep hf hp) hn)
    · have hfetched := up.settings settings rfl
      refine Or.inl ⟨⟨settings, .kept _ _ _ hfetched (not_forgets_advance p.url k), ?_⟩, hn⟩
      rw [← up.document, hl]
      exact nothing.keep hf hp
    · exact Or.inr (.replace p r)

/-- Passes are up to date after a pass for the document has begun, if the others are. -/
theorem GoesOn.upToDate {r : Request} {ticket : Nat} (h : GoesOn as k st t next)
    (begins : Begins s r ticket t next) (hr : r.url = u) (opened : s.documents.get? u = some d)
    (others : ∀ l st p, l ≠ k → (after (as ++ [.advance k])).tasks.get? l = some st →
      st.pass? = some p → p.url = u → Spent p st ∨ UpToDate u d (as ++ [.advance k]) p st) :
    ∀ l st p, (after (as ++ [.advance k])).tasks.get? l = some st → st.pass? = some p →
      p.url = u → Spent p st ∨ UpToDate u d (as ++ [.advance k]) p st := by
  intro l st p found here hu
  by_cases hl : l = k
  · subst hl
    cases h.eq_next found
    exact Or.inr (begins.upToDate (hr ▸ opened) here)
  · exact others l st p hl found here hu

/-- The passes of the other tasks stay up to date when a task goes on that does not close the
document. -/
theorem CaughtUp.others (h : CaughtUp u d as) (goes : GoesOn as k st t next)
    (hc : st ≠ .fresh (.close u)) :
    ∀ l st p, l ≠ k → (after (as ++ [.advance k])).tasks.get? l = some st → st.pass? = some p →
      p.url = u → Spent p st ∨ UpToDate u d (as ++ [.advance k]) p st := by
  intro l st' p hl found here hu
  rw [goes.other hl] at found
  refine (h.passes l st' p found here hu).imp_right fun up =>
    up.keep (not_forgets_advance u k) ?_
  rw [goes.cells]
  exact goes.moves.seeks.keeps_cell hc

/-- The work that is left to do stays so when a task goes on that is not at the store and owes
nothing. -/
theorem CaughtUp.work_keep (h : CaughtUp u d as) (about : LintsOrCloses u (after as))
    (goes : GoesOn as k st t next) (apart : ∀ a, st ≠ .store a)
    (spent : ∀ p, st.pass? = some p → Spent p st) :
    (Settled u d (as ++ [.advance k]) ∧ Unclosed u (after (as ++ [.advance k]))) ∨
    ∃ l st p, (after (as ++ [.advance k])).tasks.get? l = some st ∧ st.pass? = some p ∧ p.url = u ∧
      p.document = some d ∧ Owes u (as ++ [.advance k]) st := by
  obtain ⟨hf, hp⟩ := goes.nothing_stored apart u
  have hn : Unclosed u (after as) → Unclosed u (after (as ++ [.advance k])) := fun hn =>
    hn.snoc about trivial
  rcases h.work with ⟨hs, hc⟩ | ⟨l, st', p, fd, here, hu, hd, owes⟩
  · exact Or.inl ⟨hs.keep (not_forgets_advance u k) hf hp, hn hc⟩
  · right
    have hl : l ≠ k := by
      rintro rfl
      cases goes.found.symm.trans fd
      exact owes.not_spent hd (spent p here)
    exact ⟨l, st', p, (goes.other hl).trans fd, here, hu, hd, owes.keep hf hp hn⟩

/-- When a call to lint the document starts, the passes stay up to date. -/
theorem CaughtUp.start {r : Request} (h : CaughtUp u d as) (tended : Tended u (after as))
    (opened : (after as).documents.get? u = some d) (hr : r.url = u)
    (goes : GoesOn as k (.fresh (.validate r)) t next) :
    CaughtUp u d (as ++ [.advance k]) := by
  have others := h.others goes nofun
  have spent : ∀ p, (Stage.fresh (.validate r)).pass? = some p → Spent p (.fresh (.validate r)) := by
    intro p hp
    cases hp
  refine ⟨?_, h.work_keep tended.about goes (fun _ => nofun) spent⟩
  cases goes.moves.trades with
  | nothing begun same pass => exact (begun r rfl).elim
  | close v here | stale p here | free p here | replay p here => cases here
  | wait q here busy queued ended =>
    subst ended
    intro l st p fd here hu
    refine others l st p ?_ fd here hu
    rintro rfl
    cases goes.eq_next fd
    cases here
  | start q here idle claimed v documents begins =>
    cases here
    exact goes.upToDate begins hr (documents ▸ opened) others

/-- When a pass that is spent goes on, the passes stay up to date. -/
theorem CaughtUp.goOn_spent {p : Pass} (h : CaughtUp u d as) (tended : Tended u (after as))
    (opened : (after as).documents.get? u = some d) (here : st.pass? = some p) (hu : p.url = u)
    (spent : Spent p st) (goes : GoesOn as k st t next) : CaughtUp u d (as ++ [.advance k]) := by
  have tells := spent.tells goes.found here
  have others := h.others goes (by rintro rfl; cases here)
  have self : (∀ q, next.pass? = some q → Spent q next) → ∀ l st p,
      (after (as ++ [.advance k])).tasks.get? l = some st → st.pass? = some p → p.url = u →
        Spent p st ∨ UpToDate u d (as ++ [.advance k]) p st := by
    intro hn l st q fd here' hu'
    by_cases hl : l = k
    · subst hl
      cases goes.eq_next fd
      exact Or.inl (hn q here')
    · exact others l st q hl fd here' hu'
  refine ⟨?_, h.work_keep tended.about goes (by rintro a rfl; cases tells) ?_⟩
  · rcases goes.moves.of_spent (onCourse_after as goes.found p here) spent tells with
      ⟨_, rfl⟩ | ⟨es, resumes⟩
    · exact self fun q _ => Or.inr rfl
    · cases resumes with
      | stale | free =>
        apply self
        intro q hq
        cases hq
      | replay p es owner r schedule handed t next begins =>
        exact goes.upToDate begins (handed.url.trans hu) opened others
  · intro q hq
    rw [here, Option.some.injEq] at hq
    exact hq ▸ spent

/-- When a pass for the document goes on, the passes stay up to date, and so does the work that is
left to do. -/
theorem CaughtUp.goOn {p : Pass} (h : CaughtUp u d as) (tended : Tended u (after as))
    (opened : (after as).documents.get? u = some d) (here : st.pass? = some p) (hu : p.url = u)
    (goes : GoesOn as k st t next) :
    CaughtUp u d (as ++ [.advance k]) := by
  by_cases spent : Spent p st
  · exact h.goOn_spent tended opened here hu spent goes
  have found := goes.found
  have hc := onCourse_after as found p here
  have up := (h.passes k st p found here hu).resolve_left spent
  have owner := (tended.owned k st p found here hu).resolve_left spent
  have others := h.others goes (by rintro rfl; cases here)
  constructor
  · cases goes.moves.trades with
    | wait r hs | start r hs | close v hs =>
      rw [hs] at here
      cases here
    | nothing begun same pass =>
      intro l st' q fd here' hu'
      by_cases hl : l = k
      · subst hl
        cases goes.eq_next fd
        rw [here', here, Option.map_some, Option.map_some, Option.some.injEq] at pass
        exact Or.inr (up.advance here hu opened goes here' pass)
      · exact others l st' q hl fd here' hu'
    | stale q hs old =>
      rw [here, Option.some.injEq] at hs
      subst hs hu
      cases owner.symm.trans old
    | free q hs owner empty freed es ended =>
      subst ended
      intro l st' q' fd here' hu'
      refine others l st' q' ?_ fd here' hu'
      rintro rfl
      cases goes.eq_next fd
      cases here'
    | replay q hs owner r handed v documents begins =>
      rw [here, Option.some.injEq] at hs
      subst hs
      exact goes.upToDate begins (handed.url.trans hu) (documents ▸ opened) others
  · have hw : (Settled u d (as ++ [.advance k]) ∧ Unclosed u (after (as ++ [.advance k]))) ∨
        Owes u (as ++ [.advance k]) next := by
      rcases h.work with ⟨hs, hn⟩ | ⟨l, st', q, fd, here', hu', hd, owes⟩
      · have hn := hn.snoc tended.about (a := .advance k) trivial
        exact (hs.advance up hc hu goes hn).imp_left fun hs => ⟨hs, hn⟩
      · -- The pass that owes the findings is the one that goes on.
        have he := tended.unique (held_after as) found here hu owner fd here' hu' (owes.not_spent hd)
        subst he
        cases found.symm.trans fd
        exact owes.advance tended up here hu opened goes
    rcases hw with hs | owes
    · exact Or.inl hs
    · right
      have hv : st.Validates u := Or.inr ⟨p, here, hu⟩
      rcases goes.moves.trades.validates hv with (⟨r, rfl, _⟩ | ⟨q, hq, hqu⟩) | ⟨es, rfl⟩
      · cases owes with
        | lint st blank => cases blank
      · have hd : q.document = some d := by
          rcases goes.moves.trades.pass_cases hq with ⟨p', hp', he, _⟩ | begun
          · rw [here, Option.some.injEq] at hp'
            subst hp'
            exact (congrArg Pass.document he).trans up.document
          · rw [begun.document, hqu, opened]
        exact ⟨k, next, q, goes.self (by rintro v rfl; cases hq), hq, hqu, hd, owes⟩
      · cases owes with
        | lint st blank => cases blank

/-- The passes have caught up when one has begun that is to show what it finds. -/
theorem GoesOn.caughtUp {r : Request} {ticket : Nat} (h : GoesOn as k st t next)
    (begins : Begins s r ticket t next) (hr : r.url = u) (opened : s.documents.get? u = some d)
    (plain : r.options.format = false)
    (alone : ∀ l st p, l ≠ k → (after as).tasks.get? l = some st → st.pass? = some p → p.url = u →
      Spent p st) : CaughtUp u d (as ++ [.advance k]) := by
  refine ⟨h.upToDate begins hr opened ?_, Or.inr ?_⟩
  · intro l st p hl found here hu
    exact Or.inl (alone l st p hl ((h.other hl).symm.trans found) here hu)
  · cases begins with
    | clear =>
      subst hr
      exact ⟨k, _, s.passFor r ticket, h.self (fun _ => nofun), rfl, rfl, opened, .clear _⟩
    | announce silent =>
      rcases silent with hf | hn
      · rw [plain] at hf
        cases hf
      · rw [hr, opened] at hn
        cases hn

/-- A request that is wanted is wanted still when a task that lints the document has gone on, or a
pass for it has begun. -/
theorem Wanted.advance (h : Wanted u (after as)) (tended : Tended u (after as))
    (opened : (after as).documents.get? u = some d) (hv : st.Validates u)
    (goes : GoesOn as k st t next) :
    Wanted u (after (as ++ [.advance k])) ∨ CaughtUp u d (as ++ [.advance k]) := by
  have found := goes.found
  have hq : ∀ {o : Options}, o ∈ t.schedule.queuedFor u → o.format = false →
      Wanted u (after (as ++ [.advance k])) := by
    intro o ho plain
    refine Or.inr ⟨o, ?_, plain⟩
    rwa [goes.schedule]
  rcases h with ⟨l, r, fd, hr, plain⟩ | ⟨o, ho, plain⟩
  · by_cases hl : l = k
    · subst hl
      cases found.symm.trans fd
      subst hr
      cases goes.moves.trades with
      | nothing begun same pass => exact (begun r rfl).elim
      | close v here | stale p here | free p here | replay p here => cases here
      | wait q here busy queued ended =>
        cases here
        refine Or.inl (hq (o := r.options) ?_ plain)
        rw [queued, Schedule.mem_queuedFor]
        exact Schedule.mem_enqueue ..
      | start q here idle claimed v documents begins =>
        cases here
        exact Or.inr (goes.caughtUp begins rfl (documents ▸ opened) plain fun l st p _ =>
          tended.spent_of_idle idle l st p)
    · exact Or.inl (Or.inl ⟨l, r, (goes.other hl).trans fd, hr, plain⟩)
  · cases goes.moves.trades with
    | nothing begun same pass => exact Or.inl (hq (same ▸ ho) plain)
    | wait q here busy queued ended =>
      refine Or.inl (hq (o := o) ?_ plain)
      rw [queued, Schedule.queuedFor_enqueue]
      exact List.mem_append_left _ ho
    | start q here idle claimed v documents begins =>
      refine Or.inl (hq (o := o) ?_ plain)
      rw [claimed, Schedule.queuedFor_claim]
      exact ho
    | close v here cancelled holding =>
      by_cases hvu : v = u
      · exact (ne_close_of_validates hv (hvu ▸ here)).elim
      · refine Or.inl (hq (o := o) ?_ plain)
        rw [cancelled, Schedule.queuedFor_cancel_ne _ (Ne.symm hvu)]
        exact ho
    | stale p here old same => exact Or.inl (hq (same ▸ ho) plain)
    | free p here owner empty freed =>
      by_cases hu : p.url = u
      · rw [hu] at empty
        rw [empty] at ho
        cases ho
      · exact Or.inl (hq (freed ▸ ho) plain)
    | replay p here owner r handed v documents begins =>
      by_cases hu : p.url = u
      · -- The request is the one that begins now, or it waits behind that.
        subst hu
        rw [handed.first] at ho
        rcases List.mem_cons.mp ho with rfl | ho
        · exact Or.inr (goes.caughtUp begins handed.url (documents ▸ opened) plain
            (tended.spent_of_owner (held_after as) found here rfl owner))
        · exact Or.inl (hq ho plain)
      · refine Or.inl (hq (o := o) ?_ plain)
        rw [handed.others_wait u (Ne.symm hu)]
        exact ho

theorem Moves.of_purge (h : Moves s k (.store (.change u .purge (.finish .nothing))) t next) :
    t.schedule = s.schedule ∧ next.pass? = none := by
  cases h with
  | queue | publish => exact ⟨rfl, rfl⟩
  | keep v c plan turn store changed t next resumes => cases congrArg Prod.snd changed

/-- When a close goes on, no pass has had its turn in the store. -/
theorem CaughtUp.purge (h : CaughtUp u d as)
    (goes : GoesOn as k (.store (.change u .purge (.finish .nothing))) t next) :
    CaughtUp u d (as ++ [.advance k]) := by
  obtain ⟨_, hn⟩ := goes.moves.of_purge
  have closes : ¬ Unclosed u (after as) := fun hn => hn k _ goes.found .purge
  constructor
  · intro l st p fd here hu
    refine h.others goes nofun l st p ?_ fd here hu
    rintro rfl
    cases goes.eq_next fd
    rw [hn] at here
    cases here
  · rcases h.work with ⟨_, hc⟩ | ⟨l, st, p, fd, here, hu, hd, owes⟩
    · exact (closes hc).elim
    · have hl : l ≠ k := by
        rintro rfl
        cases goes.found.symm.trans fd
        cases here
      refine Or.inr ⟨l, st, p, (goes.other hl).trans fd, here, hu, hd, ?_⟩
      cases owes with
      | clear q => exact .clear q
      | lint st blank nothing unclosed => exact (closes unclosed).elim
      | replace q r => exact .replace q r

theorem Wanted.purge (h : Wanted u (after as))
    (goes : GoesOn as k (.store (.change u .purge (.finish .nothing))) t next) :
    Wanted u (after (as ++ [.advance k])) := by
  rcases h with ⟨l, r, fd, hr, plain⟩ | hq
  · have hl : l ≠ k := by
      rintro rfl
      cases goes.found.symm.trans fd
    exact Or.inl ⟨l, r, (goes.other hl).trans fd, hr, plain⟩
  · right
    rw [goes.schedule, goes.moves.of_purge.1]
    exact hq

/-- A request for the document is wanted or the passes have caught up, and the document is `d`. -/
structure Awaits (u : Url) (d : Document) (as : List Action) : Prop where
  opened : (after as).documents.get? u = some d
  state : Wanted u (after as) ∨ CaughtUp u d as

/-- Going on does not change a document, unless it is closed. -/
theorem Moves.document (h : Moves s k st t next) (hc : st ≠ .fresh (.close u)) :
    t.documents.get? u = s.documents.get? u := by
  cases h with
  | start r idle t next begins => rw [begins.documents]
  | close v =>
    refine Keyed.get?_erase_ne _ ?_
    rintro rfl
    exact hc rfl
  | keep v c plan turn store changed t next resumes => rw [resumes.documents]
  | shown plan x t next resumes => rw [resumes.documents]
  | told plan x t next resumes => rw [resumes.documents]
  | _ => rfl

/-- An action that edits nothing of the document is about another one, or it is a task going on that
lints the document or is at the store to close it. -/
theorem apart_or_advance (a : Action) (tended : Tended u (after as)) :
    (∀ id st, a = .advance id → (after as).tasks.get? id = some st →
      (after as).canGoOn id st = true → st.subject? ≠ some u) ∨
    ∃ k st t next, a = .advance k ∧ GoesOn as k st t next ∧
      (st.Validates u ∨ st = .store (.change u .purge (.finish .nothing))) := by
  by_cases apart : ∀ id st, a = .advance id → (after as).tasks.get? id = some st →
      (after as).canGoOn id st = true → st.subject? ≠ some u
  · exact Or.inl apart
  · simp only [not_forall, ne_eq, not_not] at apart
    obtain ⟨k, st, ha, found, ready, hu⟩ := apart
    refine Or.inr ⟨k, st, _, _, ha, goesOn_of_ready found ready, ?_⟩
    refine (tended.about k st found hu).imp_right fun hc => ?_
    cases hc with
    | begin => exact (tended.ahead.not_fresh (inTurn_after as) k found).elim
    | purge => rfl

theorem document_snoc (tended : Tended u (after as)) {a : Action} (spared : a.Spares u)
    (unedited : ¬ a.Edits u) :
    (after (as ++ [a])).documents.get? u = (after as).documents.get? u := by
  rcases apart_or_advance a tended with apart | ⟨k, st, t, next, rfl, goes, hs⟩
  · exact (keeps_snoc spared unedited apart).1.document
  · rw [goes.documents]
    refine goes.moves.document ?_
    rcases hs with hv | rfl
    · exact ne_close_of_validates hv
    · nofun

theorem Awaits.snoc (h : Awaits u d as) (tended : Tended u (after as)) {a : Action}
    (spared : a.Spares u) (unedited : ¬ a.Edits u) : Awaits u d (as ++ [a]) := by
  refine ⟨(document_snoc tended spared unedited).trans h.opened, ?_⟩
  rcases apart_or_advance a tended with apart | ⟨k, st, t, next, rfl, goes, hv | rfl⟩
  · exact h.state.imp (Wanted.keep spared unedited apart)
      (CaughtUp.keep spared unedited apart · tended.about)
  · rcases h.state with hw | hc
    · exact hw.advance tended h.opened hv goes
    · right
      rcases hv with ⟨r, rfl, hr⟩ | ⟨p, here, hu⟩
      · exact hc.start tended h.opened hr goes
      · exact hc.goOn tended h.opened here hu goes
  · exact h.state.imp (Wanted.purge · goes) (CaughtUp.purge · goes)

/-- What a tended document waits for is the same after a run that spares it and edits nothing. -/
theorem Tended.awaits {before rest : List Action} (tended : Tended u (after before))
    (h : Awaits u d before) (spares : ∀ a ∈ rest, a.Spares u) (unedited : ∀ a ∈ rest, ¬ a.Edits u) :
    Awaits u d (before ++ rest) := by
  induction rest using List.reverseRecOn with
  | nil => rwa [List.append_nil]
  | append_singleton rest a ih =>
    rw [← List.append_assoc]
    have hm : ∀ b ∈ rest, b.Spares u := fun b hb => spares b (List.mem_append_left _ hb)
    have ih := ih hm fun b hb => unedited b (List.mem_append_left _ hb)
    exact ih.snoc (tended.append hm) (spares a (by simp)) (unedited a (by simp))

/-- When no call to lint the document is left, there is nothing to wait for. -/
theorem Tended.settled (tended : Tended u (after as)) (h : Awaits u d as)
    (ended : ∀ k st, (after as).tasks.get? k = some st → ¬ st.Validates u) : Settled u d as := by
  rcases h.state with (⟨k, r, found, hr, _⟩ | ⟨o, ho, _⟩) | hc
  · exact (ended k _ found (Or.inl ⟨r, rfl, hr⟩)).elim
  · have hpending := tended.attended (List.ne_nil_of_mem ho)
    obtain ⟨slot, hs⟩ := Schedule.isPending_iff.mp hpending
    obtain ⟨k, st, found, hh⟩ := (held_after as).taken u slot hs
    exact (ended k st found (validates_of_holding hh)).elim
  · rcases hc.work with ⟨hs, _⟩ | ⟨k, st, p, found, here, hu, _⟩
    · exact hs
    · exact (ended k st found (Or.inr ⟨p, here, hu⟩)).elim

theorem Tended.documents {before rest : List Action} (tended : Tended u (after before))
    (spares : ∀ a ∈ rest, a.Spares u) (unedited : ∀ a ∈ rest, ¬ a.Edits u) :
    (after (before ++ rest)).documents.get? u = (after before).documents.get? u := by
  induction rest using List.reverseRecOn with
  | nil => rw [List.append_nil]
  | append_singleton rest a ih =>
    rw [← List.append_assoc]
    have hm : ∀ b ∈ rest, b.Spares u := fun b hb => spares b (List.mem_append_left _ hb)
    rw [document_snoc (tended.append hm) (spares a (by simp)) (unedited a (by simp))]
    exact ih hm fun b hb => unedited b (List.mem_append_left _ hb)

section
variable {before rest : List Action}

theorem spared_left (spares : ∀ a ∈ before ++ rest, a.Spares u) : ∀ a ∈ before, a.Spares u :=
  fun a ha => spares a (List.mem_append_left _ ha)

theorem spared_right (spares : ∀ a ∈ before ++ rest, a.Spares u) : ∀ a ∈ rest, a.Spares u :=
  fun a ha => spares a (List.mem_append_right _ ha)

theorem awaits_after (h : Awaits u d before) (spares : ∀ a ∈ before ++ rest, a.Spares u)
    (unedited : ∀ a ∈ rest, ¬ a.Edits u) : Awaits u d (before ++ rest) :=
  (tended_after before (spared_left spares)).awaits h (spared_right spares) unedited

theorem Awaits.settled (h : Awaits u d as) (spares : ∀ a ∈ as, a.Spares u)
    (ended : ∀ k st, (after as).tasks.get? k = some st → ¬ st.Validates u) : Settled u d as :=
  (tended_after as spares).settled h ended

theorem documents_after (spares : ∀ a ∈ before ++ rest, a.Spares u)
    (unedited : ∀ a ∈ rest, ¬ a.Edits u) :
    (after (before ++ rest)).documents.get? u = (after before).documents.get? u :=
  (tended_after before (spared_left spares)).documents (spared_right spares) unedited

end

/-- No update of a document is lost. When a call to lint it and to show what is found comes after
the last action that opens or changes it or invalidates its settings, and no call to lint it is left
in the end, then what is stored for it and was last published for it is what linting its text gives
under settings that were fetched after they were last invalidated. -/
theorem no_lost_update (u : Url) (d : Document) (before rest : List Action) (id : Nat)
    (o : Options) (plain : o.format = false)
    (new : (after before).tasks.contains id = false)
    (spares : ∀ a ∈ before ++ .call id (.validate ⟨u, o⟩) :: rest, a.Spares u)
    (unedited : ∀ a ∈ rest, ¬ a.Edits u)
    (opened : (after (before ++ .call id (.validate ⟨u, o⟩) :: rest)).documents.get? u = some d)
    (ended : ∀ k st, (after (before ++ .call id (.validate ⟨u, o⟩) :: rest)).tasks.get? k = some st →
      ¬ st.Validates u) :
    ∃ settings, Fetched u settings (before ++ .call id (.validate ⟨u, o⟩) :: rest) ∧
      let found := (after (before ++ .call id (.validate ⟨u, o⟩) :: rest)).store.findings u
      (found.diagnostics, found.fixes) = outcome (lint u (some d) settings) ∧
      (published u (before ++ .call id (.validate ⟨u, o⟩) :: rest)).getLast? =
        some found.diagnostics := by
  have hb : before ++ .call id (.validate ⟨u, o⟩) :: rest =
      (before ++ [.call id (.validate ⟨u, o⟩)]) ++ rest := by simp
  rw [hb] at spares opened ended ⊢
  have hd := documents_after spares unedited
  have hcall : Awaits u d (before ++ [.call id (.validate ⟨u, o⟩)]) := by
    refine ⟨hd.symm.trans opened, Or.inl (Or.inl ⟨id, ⟨u, o⟩, ?_, rfl, plain⟩)⟩
    rw [after_snoc, act, new]
    exact Keyed.get?_set_self ..
  -- The call is wanted right after it came, and the rest of the run edits nothing.
  obtain ⟨settings, hf, hs⟩ := (awaits_after hcall spares unedited).settled spares ended
  exact ⟨settings, hf, Prod.ext hs.diagnostics hs.fixes, hs.shown.trans (by rw [hs.diagnostics])⟩

/-- A document is opened and linted. The pass has read the text when another call to lint comes,
which has to wait. Then the text changes. -/
def untilChange (u : Url) : List Action :=
  [.openDocument u ⟨"", 1, .plainText⟩, .call 0 (.validate ⟨u, {}⟩), .advance 0, .advance 0,
    .answer 0 {}, .advance 0, .answer 0 {}, .advance 0, .advance 0,
    .call 1 (.validate ⟨u, {}⟩), .advance 1, .changeText u "guys" 2]

/-- The first pass ends, and the request that waited is done. -/
def sinceChange : List Action :=
  [.advance 2, .answer 0 {}, .advance 0, .linted 0, .advance 0, .advance 0, .answer 0 {}, .advance 0,
    .advance 0, .answer 0 {}, .advance 0, .advance 0, .answer 0 {}, .advance 0, .answer 0 {},
    .advance 0, .advance 0, .linted 0, .advance 0, .advance 0, .answer 0 {}, .advance 0, .advance 0,
    .answer 0 {}, .advance 0]

def notes : Url := { scheme := "file", path := .segments ["a.txt"] }

/-- A call that falls together with one from before the last change is enough for the text after the
change to be linted. -/
theorem update_not_lost_by_collapse :
    ∃ settings,
      Fetched notes settings (untilChange notes ++ .call 2 (.validate ⟨notes, {}⟩) :: sinceChange) ∧
      let found := (after (untilChange notes ++ .call 2 (.validate ⟨notes, {}⟩) :: sinceChange)).store.findings notes
      (found.diagnostics, found.fixes) =
        outcome (lint notes (some ⟨"guys", 2, .plainText⟩) settings) ∧
      (published notes (untilChange notes ++ .call 2 (.validate ⟨notes, {}⟩) :: sinceChange)).getLast? =
        some found.diagnostics := by
  refine no_lost_update notes ⟨"guys", 2, .plainText⟩ _ _ 2 {} rfl (by decide +kernel) ?_ ?_
    (by decide +kernel) ?_
  · simp [untilChange, sinceChange, Action.Spares, Job.Spares]
  · simp [sinceChange, Action.Edits, Action.Forgets]
  · have hn : (after (untilChange notes ++ .call 2 (.validate ⟨notes, {}⟩) :: sinceChange)).tasks.entries.length =
        0 := by decide +kernel
    intro k st hk
    rw [Keyed.get?, List.length_eq_zero_iff.mp hn] at hk
    cases hk

end Considerate.Session
