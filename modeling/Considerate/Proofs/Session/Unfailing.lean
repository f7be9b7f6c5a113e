import Considerate.Proofs.Session.Handed
import Considerate.Proofs.Session.Statuses
import Considerate.Proofs.Slices

namespace Considerate

/-- The pass is over a document that is plain text or HTML. -/
def Pass.Plain (p : Pass) : Prop :=
  ∃ d, p.document = some d ∧ (d.filetype.profile = .text ∨ d.filetype.profile = .html)

theorem Pass.Plain.congr {p q : Pass} (h : q.Plain) (same : p.unnumbered = q.unnumbered) :
    p.Plain := by
  obtain ⟨d, hd, plain⟩ := h
  exact ⟨d, (congrArg (·.document) same).trans hd, plain⟩

namespace Session

variable {s t : Session} {id k : Nat} {st next : Stage} {p q : Pass} {as before : List Action}
  {a : Action} {settings : Settings} {x : Status} {ret : Return}

/-- The pass at a stage is about to fail: it has found no document, or linting has failed. -/
inductive Fails (p : Pass) : Stage → Prop
  | absent (x : Answer) (missing : p.document = none) : Fails p (.back (.told (.configure p)) x)
  | failed (settings : Settings) (e : LintError)
      (failed : lint p.url p.document settings = .error e) : Fails p (.linted p settings)

theorem Fails.pass? (h : Fails p st) : st.pass? = some p := by
  cases h <;> rfl

theorem fails_of_leaving {e : LintError} (h : .lints (.error e) ∈ st.leaving) :
    ∃ p, Fails p st := by
  unfold Stage.leaving at h
  split at h
  · rename_i p settings
    rw [List.mem_singleton] at h
    exact ⟨p, .failed settings e (Deed.lints.inj h).symm⟩
  · rename_i p x
    split at h
    · rename_i missing
      exact ⟨p, .absent x missing⟩
    · cases h
  · simp at h
  · cases h

theorem ne_error_of_begins {phase : Phase} (h : phase.begins = true) : phase ≠ .error := by
  rintro rfl
  cases h

theorem Begins.not_error {r : Request} {ticket : Nat} (h : Begins s r ticket t next)
    (told : next = .calling (.status x) ret) : x.phase ≠ .error := by
  cases h with
  | clear => cases told
  | announce =>
    cases told
    exact ne_error_of_begins (Phase.begins_ofOptions _)

theorem Resumes.fails {plan : Plan} (h : Resumes s plan t next)
    (told : next = .calling (.status x) ret) (error : x.phase = .error) :
    ∃ p, plan = .configure p ∧ p.document = none ∧ x = p.status .error := by
  cases h with
  | announce =>
    cases told
    exact (ne_error_of_begins (Phase.begins_ofOptions _) error).elim
  | absent p missing =>
    cases told
    exact ⟨p, rfl, missing, rfl⟩
  | replay p es owner r schedule handed t next begins => exact (begins.not_error told error).elim
  | gone | format | close =>
    cases told
    cases error
  | _ => cases told

theorem Moves.fails (h : Moves s id st t next) (hs : OnCourse st)
    (told : next = .calling (.status x) ret) (error : x.phase = .error) :
    ∃ p, Fails p st ∧ x = p.status .error := by
  cases h with
  | start r idle t next begins => exact (begins.not_error told error).elim
  | keep u c plan turn store changed t next resumes =>
    obtain ⟨p, rfl, -⟩ := resumes.fails told error
    cases hs p rfl
  | shown plan y t next resumes =>
    obtain ⟨p, rfl, -⟩ := resumes.fails told error
    cases hs p rfl
  | told plan y t next resumes =>
    obtain ⟨p, rfl, missing, hx⟩ := resumes.fails told error
    exact ⟨p, .absent y missing, hx⟩
  | configured n reader y => cases reader <;> cases told
  | filled u n reader settings value => cases reader <;> cases told
  | fail p settings e failed =>
    cases told
    exact ⟨p, .failed settings e failed, rfl⟩
  | late =>
    cases told
    cases error
  | _ => cases told

/-- No pass over a plain or HTML document is about to fail. -/
theorem Fails.not_plain (h : Fails p st) (found : (after as).tasks.get? k = some st) :
    ¬ p.Plain := by
  rintro ⟨d, hd, plain⟩
  cases h with
  | absent x missing =>
    rw [hd] at missing
    cases missing
  | failed settings e failed =>
    obtain ⟨f, -, rfl, -⟩ := fetchedFor_after as found rfl rfl
    obtain ⟨r, hr⟩ := (lintsWell p.url f.valid plain).linted
    rw [hd, hr] at failed
    cases failed

/-- A pass that has failed, at the time when it did so. -/
structure Failure (p : Pass) (as : List Action) where
  task : Nat
  stage : Stage
  before : List Action
  within : before ++ [.advance task] <+: as
  found : (after before).tasks.get? task = some stage
  fails : Fails p stage

theorem Failure.not_plain (f : Failure p as) : ¬ p.Plain := f.fails.not_plain f.found

def Failure.snoc (f : Failure p as) (a : Action) : Failure p (as ++ [a]) :=
  { f with within := f.within.trans (List.prefix_append as [a]) }

/-- Failures are told of passes that have failed. -/
theorem failure_of_status (as : List Action) (sent : x ∈ statuses as) (error : x.phase = .error) :
    ∃ p, x = p.status .error ∧ Nonempty (Failure p as) := by
  induction as using List.reverseRecOn with
  | nil => cases sent
  | append_singleton as a ih =>
    rw [statuses_snoc, List.mem_append] at sent
    rcases sent with sent | sent
    · obtain ⟨p, hx, ⟨f⟩⟩ := ih sent
      exact ⟨p, hx, ⟨f.snoc a⟩⟩
    obtain ⟨effect, he, hs⟩ := List.mem_filterMap.mp sent
    rcases does_or_still as a with ⟨k, st, t, next, rfl, does⟩ | ⟨still, -⟩
    · obtain ⟨ids, effects⟩ := does.effects
      rw [effects, List.mem_append, List.mem_map] at he
      rcases he with ⟨l, -, rfl⟩ | he
      · cases hs
      obtain ⟨ret, told⟩ : ∃ ret, next = .calling (.status x) ret := by
        cases next with
        | calling c ret =>
          rw [seen, List.mem_singleton] at he
          subst he
          cases c with
          | status y =>
            cases hs
            exact ⟨ret, rfl⟩
          | _ => cases hs
        | linting | done =>
          rw [seen, List.mem_singleton] at he
          subst he
          cases hs
        | _ => cases he
      obtain ⟨p, fails, hx⟩ := does.moves.fails (onCourse_after as does.found) told error
      exact ⟨p, hx, ⟨⟨k, st, as, List.prefix_refl _, does.found, fails⟩⟩⟩
    · obtain ⟨l, rfl⟩ := (step_act (after as) a).woken still effect he
      cases hs

/-- Deeds that fail are of passes that have failed. -/
theorem failure_of_deed (as : List Action) {m : Nat} {e : LintError}
    (done : .lints (.error e) ∈ deeds m as) : ∃ p, p.ticket = m ∧ Nonempty (Failure p as) := by
  induction as using List.reverseRecOn with
  | nil => cases done
  | append_singleton as a ih =>
    rcases does_or_still as a with ⟨k, st, t, next, rfl, does⟩ | ⟨-, same⟩
    · rw [does.adds, List.mem_append, List.mem_append] at done
      rcases done with done | done | done
      · obtain ⟨p, hp, ⟨f⟩⟩ := ih done
        exact ⟨p, hp, ⟨f.snoc _⟩⟩
      · split at done
        · rename_i here
          obtain ⟨p, fails⟩ := fails_of_leaving done
          refine ⟨p, ?_, ⟨⟨k, st, as, List.prefix_refl _, does.found, fails⟩⟩⟩
          simpa [Stage.ticket?, fails.pass?] using here
        · cases done
      · split at done
        · unfold Stage.coming at done
          split at done <;> simp at done
        · cases done
    · rw [show deeds m (as ++ [a]) = deeds m as from congrArg (under m) same] at done
      obtain ⟨p, hp, ⟨f⟩⟩ := ih done
      exact ⟨p, hp, ⟨f.snoc a⟩⟩

theorem pass_before (found : (after (as ++ [a])).tasks.get? k = some st) (hp : st.pass? = some p)
    (issued : p.ticket ≤ (after as).schedule.lastTicket) :
    ∃ old q, (after as).tasks.get? k = some old ∧ old.pass? = some q ∧
      p.unnumbered = q.unnumbered := by
  rw [after_snoc] at found
  cases (step_act (after as) a).arises found with
  | stays a there => exact ⟨st, p, there, hp, rfl⟩
  | called job fresh =>
    subst fresh
    cases hp
  | moved old t there ready moves result sight =>
    rcases moves.trades.comes hp with ⟨q, hq, he⟩ | opens
    · exact ⟨old, q, there, hq, he⟩
    · have := opens.ticket
      omega
  | answered c plan y there back =>
    subst back
    rw [pass?_back c] at hp
    exact ⟨_, p, there, hp, rfl⟩
  | linted q settings there ended =>
    subst ended
    exact ⟨_, p, there, hp, rfl⟩

theorem issued_of_pass (found : (after as).tasks.get? k = some st) (hp : st.pass? = some p) :
    p.ticket ≤ (after as).schedule.lastTicket :=
  (held_after as).issued _ _ _ (holds_of_pass found hp rfl)

theorem same_pass {rest : List Action} {l : Nat} {st' : Stage}
    (hk : (after before).tasks.get? k = some st) (hp : st.pass? = some p)
    (hl : (after (before ++ rest)).tasks.get? l = some st') (hq : st'.pass? = some q)
    (ticket : q.ticket = p.ticket) : q.unnumbered = p.unnumbered := by
  have sole : p.ticket ≤ (after (before ++ rest)).schedule.lastTicket ∧
      ∀ l st' q, (after (before ++ rest)).tasks.get? l = some st' → st'.pass? = some q →
        q.ticket = p.ticket → q.unnumbered = p.unnumbered := by
    apply kept_along (P := fun run => p.ticket ≤ (after run).schedule.lastTicket ∧
      ∀ l st' q, (after run).tasks.get? l = some st' → st'.pass? = some q →
        q.ticket = p.ticket → q.unnumbered = p.unnumbered)
    · refine ⟨issued_of_pass hk hp, fun l st' q hl hq ticket => ?_⟩
      have hk' := holds_of_pass hk hp rfl
      have hl' := holds_of_pass hl hq rfl
      rw [ticket] at hl'
      cases (held_after before).apart _ _ _ _ _ hk' hl'
      rw [hk, Option.some.injEq] at hl
      subst hl
      rw [hp, Option.some.injEq] at hq
      rw [hq]
    · intro earlier a later _ ⟨issued, sole⟩
      refine ⟨issued.trans (lastTicket_snoc _ a), fun l st' q hl hq ticket => ?_⟩
      obtain ⟨old, q', there, hq', same⟩ := pass_before hl hq (ticket ▸ issued)
      exact same.trans (sole l old q' there hq' ((congrArg (·.ticket) same).symm.trans ticket))
  exact sole.2 l st' q hl hq ticket

/-- The task at the pass with the ticket has been dropped. -/
def Cut (m : Nat) (as : List Action) : Prop :=
  ∃ earlier k u, earlier ++ [.drop k] <+: as ∧ (after earlier).holds k u m

/-- What has become of a pass: a task is at it, it has been dropped, or it is over. -/
inductive Fate (p : Pass) (as : List Action) : Prop
  | on (k : Nat) (st : Stage) (q : Pass) (found : (after as).tasks.get? k = some st)
      (here : st.pass? = some q) (same : q.unnumbered = p.unnumbered)
  | cut (dropped : Cut p.ticket as)
  | ended (q : Pass) (same : q.unnumbered = p.unnumbered) (whole : Whole q (deeds p.ticket as))
      (issued : p.ticket ≤ (after as).schedule.lastTicket)
      (unheld : ∀ k u, ¬ (after as).holds k u p.ticket)

theorem Fate.snoc (h : Fate p as) (a : Action) : Fate p (as ++ [a]) := by
  -- A task that comes to hold the ticket has held it before.
  have kept : ∀ {l : Nat} {u : Url}, p.ticket ≤ (after as).schedule.lastTicket →
      (after (as ++ [a])).holds l u p.ticket → (after as).holds l u p.ticket := by
    rintro l u issued ⟨st', there, hh⟩
    obtain ⟨q, hq, he⟩ := Option.map_eq_some_iff.mp hh
    rw [Prod.mk.injEq] at he
    obtain ⟨rfl, ticket⟩ := he
    obtain ⟨old, r, found, hr, same⟩ := pass_before there hq (ticket ▸ issued)
    have ht : r.ticket = p.ticket := (congrArg (·.ticket) same).symm.trans ticket
    have hu : r.url = q.url := (congrArg Pass.url same).symm
    exact ht ▸ holds_of_pass found hr hu
  cases h with
  | ended q same whole issued unheld =>
    have now : ∀ k u, ¬ (after (as ++ [a])).holds k u p.ticket := fun k u hh =>
      unheld k u (kept issued hh)
    refine .ended q same ?_ (issued.trans (lastTicket_snoc as a)) now
    rwa [deeds_snoc_of_apart (fun k u _ => unheld k u) fun k u _ => now k u]
  | cut dropped =>
    obtain ⟨earlier, k, u, hp, held⟩ := dropped
    exact .cut ⟨earlier, k, u, hp.trans (List.prefix_append as [a]), held⟩
  | on k st q found here same =>
    have ticket : q.ticket = p.ticket := congrArg (·.ticket) same
    have issued := issued_of_pass found here
    have held := holds_of_pass found here rfl
    rcases does_or_still as a with ⟨l, old, t, next, rfl, does⟩ | ⟨still, -⟩
    · by_cases hl : l = k
      · subst hl
        have hs := does.found
        rw [found, Option.some.injEq] at hs
        subst hs
        rcases does.moves.sofar (sofar_after as found here) issued with
          ⟨q', hq', ht, -⟩ | ⟨gone, whole⟩
        · have there := does.self (by
            rintro v rfl
            cases hq')
          obtain ⟨old, r, found', hr, he⟩ := pass_before there hq' (ht ▸ issued)
          rw [found, Option.some.injEq] at found'
          subst found'
          rw [here, Option.some.injEq] at hr
          exact .on _ _ q' there hq' (he.trans (hr ▸ same))
        · have hst : st.ticket? = some p.ticket := by
            rw [Stage.ticket?, here, Option.map_some, ticket]
          rw [ticket] at gone whole issued held
          refine .ended q same ?_ (issued.trans (lastTicket_snoc as _)) ?_
          · rwa [does.adds, if_pos hst, if_neg gone, List.append_nil]
          · intro n u hh
            cases (held_after as).apart _ _ _ _ _ held (kept issued hh)
            obtain ⟨st', there, hh⟩ := hh
            cases does.eq_next there
            exact gone (ticket?_iff.mpr ⟨u, hh⟩)
      · refine .on k st q ?_ here same
        rw [does.other (Ne.symm hl)]
        exact found
    · by_cases hd : a = .drop k
      · subst hd
        exact .cut ⟨as, k, q.url, List.prefix_refl _, ticket ▸ held⟩
      · obtain ⟨next, there, hears⟩ := (step_act (after as) a).hears found hd
          fun ha => still k st ha found
        rw [← after_snoc] at there
        exact .on k next q there (hears.pass?.trans here) same

theorem fate_after {rest : List Action} (found : (after before).tasks.get? k = some st)
    (hp : st.pass? = some p) : Fate p (before ++ rest) := by
  apply kept_along (P := Fate p) (.on k st p found hp rfl)
  intro earlier a later _ h
  exact h.snoc a

theorem Inner.fails {inner : List Deed} {es : List Edit} (h : Inner p inner .error es) :
    ∃ e, .lints (.error e) ∈ inner := by
  cases h with
  | missing e => exact ⟨e, by simp⟩
  | failed asked e => exact ⟨e, by simp⟩

/-- A pass that is over without having failed has told its start and then that it stops. -/
theorem Whole.stops {ds : List Deed} (h : Whole p ds) (sound : ∀ e, .lints (.error e) ∉ ds) :
    ds.filterMap Deed.status? = [p.status (.ofOptions p.request.options), p.status .stop] := by
  obtain ⟨inner, phase, es, ends, rfl⟩ := h
  rcases ends.ends with rfl | rfl
  · simp [status?_opening, ends.within.untold, Pass.starts, Pass.tells, Deed.status?]
  · obtain ⟨e, he⟩ := ends.fails
    exact (sound e (by simp [he])).elim

/-- A pass over a plain or HTML document is never one that has failed. -/
theorem sound_of_plain (hb : before <+: as) (found : (after before).tasks.get? k = some st)
    (hp : st.pass? = some p) (plain : p.Plain) (e : LintError) :
    .lints (.error e) ∉ deeds p.ticket as := by
  intro done
  obtain ⟨q, ticket, ⟨f⟩⟩ := failure_of_deed as done
  have hf : f.before <+: as := (List.prefix_append ..).trans f.within
  refine f.not_plain (plain.congr ?_)
  rcases List.prefix_or_prefix_of_prefix hb hf with ⟨later, he⟩ | ⟨later, he⟩
  · exact same_pass found hp (he ▸ f.found) f.fails.pass? ticket
  · exact (same_pass f.found f.fails.pass? (he ▸ found) hp ticket.symm).symm

/-- In every session, whatever the editor answers and whatever is loaded for the workspace:
* a pass lints under settings that do not contradict themselves; they are what the editor has
  answered about its document, if that can be used, else what was loaded last for the workspace
  before the answer was taken; under them plain and HTML documents are linted, without a slice that
  fails;
* it is told only of passes over other documents that they have failed;
* a pass over a plain or HTML document is never linted without success, and once no task is at it,
  it has told its start and then that it stops, if it has not been dropped. -/
theorem passes_unfailing (as : List Action) :
    (∀ k st p settings, (after as).tasks.get? k = some st → st.pass? = some p →
      st.settings? = some settings →
      (settings.allow = [] ∨ settings.deny = []) ∧
      (∃ f : Fetch, f.About p.url ∧ f.history ++ [.advance f.task] <+: as ∧
        settings =
          (Settings.usable? f.answer.configuration).getD (workspaceSettings f.history)) ∧
      ∀ d, p.document = some d → d.filetype.profile = .text ∨ d.filetype.profile = .html →
        LintsWell p.url d settings) ∧
    (∀ x ∈ statuses as, x.phase = .error →
      ∃ p, x = p.status .error ∧ ¬ p.Plain ∧ Nonempty (Failure p as)) ∧
    ∀ before k st p, before <+: as → (after before).tasks.get? k = some st → st.pass? = some p →
      p.Plain →
      (∀ e, .lints (.error e) ∉ deeds p.ticket as) ∧
      ((∀ k u, ¬ (after as).holds k u p.ticket) → Cut p.ticket as ∨
        ∃ q : Pass, q.unnumbered = p.unnumbered ∧ (deeds p.ticket as).filterMap Deed.status? =
          [q.status (.ofOptions q.request.options), q.status .stop]) := by
  refine ⟨?_, ?_, ?_⟩
  · intro k st p settings found hp hs
    obtain ⟨f, about, rfl, hf⟩ := fetchedFor_after as found hp hs
    refine ⟨?_, ⟨f, about, hf, f.settings_eq⟩, fun d _ plain => lintsWell p.url f.valid plain⟩
    simpa [Settings.conflicting, Classical.or_iff_not_imp_left] using f.valid
  · intro x sent error
    obtain ⟨p, hx, ⟨f⟩⟩ := failure_of_status as sent error
    exact ⟨p, hx, f.not_plain, ⟨f⟩⟩
  · intro before k st p hb found hp plain
    have sound := sound_of_plain hb found hp plain
    refine ⟨sound, fun unheld => ?_⟩
    obtain ⟨rest, rfl⟩ := hb
    have fate : Fate p (before ++ rest) := fate_after found hp
    cases fate with
    | on l st' q there here same =>
      have ht : q.ticket = p.ticket := congrArg (·.ticket) same
      exact (unheld l q.url (ht ▸ holds_of_pass there here rfl)).elim
    | cut dropped => exact Or.inl dropped
    | ended q same whole => exact Or.inr ⟨q, same, whole.stops sound⟩

/-- The pass over an HTML document gets settings from the editor that contradict themselves. -/
def untilContradicted (u : Url) : List Action :=
  [.openDocument u ⟨"<p>\u0130 guys</p>", 1, .html⟩, .call 0 (.validate ⟨u, {}⟩), .advance 0,
    .advance 0, .answer 0 {}, .advance 0, .answer 0 {}, .advance 0, .advance 0,
    .answer 0
      { configuration := some (.obj [("allow", .arr [.str "a"]), ("deny", .arr [.str "b"])]) },
    .advance 0]

def sinceContradicted : List Action :=
  [.linted 0, .advance 0, .advance 0, .answer 0 {}, .advance 0, .advance 0, .answer 0 {},
    .advance 0]

/-- The pass lints under the usual settings instead, and ends well. -/
theorem passes_unfailing_contradicted :
    ∃ p : Pass, p.Plain ∧
      (after (untilContradicted notes)).tasks.get? 0 = some (.linting p {}) ∧
      ∃ q : Pass, q.unnumbered = p.unnumbered ∧
        (deeds p.ticket (untilContradicted notes ++ sinceContradicted)).filterMap Deed.status? =
          [q.status .start, q.status .stop] := by
  let p : Pass := ⟨⟨notes, {}⟩, 1, some ⟨"<p>\u0130 guys</p>", 1, .html⟩, 1⟩
  have plain : p.Plain := ⟨_, rfl, Or.inr rfl⟩
  have found : (after (untilContradicted notes)).tasks.get? 0 = some (.linting p {}) := rfl
  have none_left : (after (untilContradicted notes ++ sinceContradicted)).tasks.entries.length = 0 := by
    decide +kernel
  have unheld : ∀ k u,
      ¬ (after (untilContradicted notes ++ sinceContradicted)).holds k u p.ticket := by
    rintro k u ⟨st, there, -⟩
    rw [Keyed.get?_of_no_entries none_left] at there
    cases there
  obtain ⟨-, -, ends⟩ := passes_unfailing (untilContradicted notes ++ sinceContradicted)
  obtain ⟨-, ends⟩ := ends _ 0 _ p (List.prefix_append ..) found rfl plain
  refine ⟨p, plain, found, ?_⟩
  rcases ends unheld with ⟨earlier, k, u, hp, -⟩ | ⟨q, same, told⟩
  · have dropped : .drop k ∈ untilContradicted notes ++ sinceContradicted := hp.subset (by simp)
    simp [untilContradicted, sinceContradicted] at dropped
  · refine ⟨q, same, told.trans ?_⟩
    rw [show q.request = p.request from congrArg (·.request) same]
    rfl

end Session

end Considerate
