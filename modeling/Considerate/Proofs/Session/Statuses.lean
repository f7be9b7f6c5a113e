import Considerate.Proofs.Session.QuickFix
import Considerate.Proofs.Session.Records

namespace Considerate

def Phase.begins : Phase → Bool
  | .start | .startFix | .startFormat => true
  | .error | .stop => false

theorem Phase.begins_ofOptions (o : Options) : (Phase.ofOptions o).begins = true := by
  unfold Phase.ofOptions
  split
  · rfl
  · split <;> rfl

def Deed.status? : Deed → Option Status
  | .calls (.status x) => some x
  | _ => none

/-- The pass that a plan is for, if it has told its start and not yet its end. -/
def Plan.under? : Plan → Option Pass
  | .configure p | .conclude p _ | .close p _ => some p
  | _ => none

/-- The pass that a task is at, if it has told its start and not yet its end. -/
def Stage.under? : Stage → Option Pass
  | .store (.change _ _ next) | .calling _ (.shown next) | .calling _ (.told next)
  | .back (.shown next) _ | .back (.told next) _ => next.under?
  | .calling _ (.configured _ (.pass p)) | .back (.configured _ (.pass p)) _
  | .cell _ _ (.pass p) | .linting p _ | .linted p _ => some p
  | _ => none

namespace Session

variable {s t : Session} {id k : Nat} {st next : Stage} {u : Url} {p q : Pass} {l : List Deed}
  {as : List Action} {a : Action}

/-- What a task tells by coming to a stage. -/
inductive Speaks (s : Session) (st : Stage) (t : Session) (next : Stage) : Prop
  | nothing (silent : ∀ x plan, next ≠ .calling (.status x) plan)
      (number : t.lastNumber = s.lastNumber) (same : next.under? = st.under?)
  | start (p : Pass) (clear : st.under? = none)
      (told : next = tell p (.ofOptions p.request.options) (.configure p))
      (number : p.number = s.lastNumber + 1) (last : t.lastNumber = p.number)
  | stop (p : Pass) (phase : Phase) (es : List Edit) (here : st.under? = some p)
      (told : next = tell p phase (.release p es)) (ends : phase = .stop ∨ phase = .error)
      (number : t.lastNumber = s.lastNumber)

theorem Begins.speaks {r : Request} {ticket : Nat} {v : Session} (h : Begins v r ticket t next)
    (number : v.lastNumber = s.lastNumber) (clear : st.under? = none) : Speaks s st t next := by
  cases h with
  | clear plain opened => exact .nothing (by simp) number clear.symm
  | announce silent => exact .start _ clear rfl (congrArg (· + 1) number) rfl

theorem Resumes.speaks {v : Session} {plan : Plan} (h : Resumes v plan t next)
    (number : v.lastNumber = s.lastNumber) (same : st.under? = plan.under?) : Speaks s st t next := by
  cases h with
  | announce p => exact .start _ same rfl (congrArg (· + 1) number) rfl
  | absent p missing => exact .stop p .error [] same rfl (Or.inr rfl) number
  | gone p d found closed => exact .stop p .stop [] same rfl (Or.inl rfl) number
  | format p r opened silent => exact .stop p .stop _ same rfl (Or.inl rfl) number
  | close p es => exact .stop p .stop es same rfl (Or.inl rfl) number
  | want | purge | record | stale | free | finish => exact .nothing (by simp) number same.symm
  | replay p es owner r schedule handed t next begins => exact begins.speaks number same

theorem Moves.speaks (h : Moves s id st t next) : Speaks s st t next := by
  cases h with
  | start r idle t next begins => exact begins.speaks rfl rfl
  | keep v c plan turn store changed t next resumes => exact resumes.speaks rfl rfl
  | shown plan x t next resumes => exact resumes.speaks rfl rfl
  | told plan x t next resumes => exact resumes.speaks rfl rfl
  | configured n reader x => cases reader <;> exact .nothing (by simp [handOver]) rfl rfl
  | filled v n reader settings value =>
    cases reader <;> exact .nothing (by simp [handOver]) rfl rfl
  | ask v n reader empty turn => cases reader <;> exact .nothing (by simp) rfl rfl
  | fail p settings e failed => exact .stop p .error [] rfl rfl (Or.inr rfl) rfl
  | late p settings r passed closed => exact .stop p .stop [] rfl rfl (Or.inl rfl) rfl
  | _ => exact .nothing (by simp) rfl rfl

def Effect.status? : Effect → Option Status
  | .called _ (.status x) => some x
  | _ => none

/-- The statuses that have been sent, the last at the end. -/
def statuses (as : List Action) : List Status :=
  gather (fun (s : Session) a => (s.act a).1) (fun s a => (s.act a).2.filterMap Effect.status?) {} as

theorem statuses_snoc (as : List Action) (a : Action) :
    statuses (as ++ [a]) = statuses as ++ ((after as).act a).2.filterMap Effect.status? := by
  rw [statuses, gather_snoc]
  rfl

def statusesIn (log : List (Nat × Deed)) : List (Nat × Status) :=
  log.filterMap fun e => e.2.status?.map (e.1, ·)

theorem statusesIn_append (xs ys : List (Nat × Deed)) :
    statusesIn (xs ++ ys) = statusesIn xs ++ statusesIn ys := List.filterMap_append

theorem statusesIn_mark (st : Stage) {ds : List Deed} (h : ds.filterMap Deed.status? = []) :
    statusesIn (st.mark ds) = [] := by
  unfold Stage.mark
  split
  · rfl
  · simpa [statusesIn, List.filterMap_map] using h

theorem status?_leaving (st : Stage) : st.leaving.filterMap Deed.status? = [] := by
  unfold Stage.leaving
  split
  · rfl
  · split <;> rfl
  · rfl
  · rfl

theorem status?_seen_of_silent (silent : ∀ x plan, next ≠ .calling (.status x) plan) :
    (seen k next).filterMap Effect.status? = [] ∧ next.coming.filterMap Deed.status? = [] := by
  cases next with
  | calling c plan =>
    cases c with
    | status x => exact (silent x plan rfl).elim
    | _ => exact ⟨rfl, rfl⟩
  | _ => exact ⟨rfl, rfl⟩

/-- The statuses among what passes have done, with the tickets of the passes. -/
def told (as : List Action) : List (Nat × Status) := statusesIn (log as)

/-- The task is at a pass that has told its start and not yet its end. -/
def UnderWay (s : Session) (k : Nat) (p : Pass) : Prop :=
  ∃ st, s.tasks.get? k = some st ∧ st.under? = some p

/-- What is told by an action. -/
inductive Tells (as : List Action) (a : Action) : Prop
  | nothing (same : told (as ++ [a]) = told as) (silent : statuses (as ++ [a]) = statuses as)
      (number : (after (as ++ [a])).lastNumber = (after as).lastNumber)
      (still : ∀ k p, (after (as ++ [a])).UnderWay k p ↔ (after as).UnderWay k p)
  | start (k : Nat) (p : Pass)
      (same : told (as ++ [a]) = told as ++ [(p.ticket, p.status (.ofOptions p.request.options))])
      (sent : statuses (as ++ [a]) = statuses as ++ [p.status (.ofOptions p.request.options)])
      (number : p.number = (after as).lastNumber + 1)
      (last : (after (as ++ [a])).lastNumber = p.number)
      (clear : ∀ q, ¬ (after as).UnderWay k q)
      (under : ∀ l q, (after (as ++ [a])).UnderWay l q ↔
        (after as).UnderWay l q ∨ l = k ∧ q = p)
  | stop (k : Nat) (p : Pass) (phase : Phase) (ends : phase = .stop ∨ phase = .error)
      (same : told (as ++ [a]) = told as ++ [(p.ticket, p.status phase)])
      (sent : statuses (as ++ [a]) = statuses as ++ [p.status phase])
      (number : (after (as ++ [a])).lastNumber = (after as).lastNumber)
      (here : (after as).UnderWay k p)
      (under : ∀ l q, (after (as ++ [a])).UnderWay l q ↔ (after as).UnderWay l q ∧ l ≠ k)

theorem pass?_of_under (h : st.under? = some p) : st.pass? = some p := by
  have plan : ∀ plan : Plan, plan.under? = some p → plan.pass? = some p := by
    intro plan h
    cases plan <;> first | exact h | cases h
  unfold Stage.under? at h
  split at h
  all_goals first | exact plan _ h | exact h | cases h

theorem under?_back (c : Call) (plan : Return) (x : Answer) :
    (Stage.back plan x).under? = (Stage.calling c plan).under? := by
  cases plan with
  | configured n reader => cases reader <;> rfl
  | _ => rfl

theorem Does.tells (h : Does as k st t next) : Tells as (.advance k) := by
  obtain ⟨ids, effects⟩ := h.effects
  have woken : (ids.map Effect.woken).filterMap Effect.status? = [] := by
    simp [List.filterMap_map, Effect.status?, Function.comp_def]
  have sent : statuses (as ++ [.advance k]) =
      statuses as ++ (seen k next).filterMap Effect.status? := by
    rw [statuses_snoc, effects, List.filterMap_append, woken, List.nil_append]
  have same : told (as ++ [.advance k]) = told as ++ statusesIn (next.mark next.coming) := by
    rw [told, h.logs, statusesIn_append, statusesIn_append,
      statusesIn_mark st (status?_leaving st), List.nil_append, told]
  have last : (after (as ++ [.advance k])).lastNumber = t.lastNumber := by
    rw [h.result, put_eq]
  have under : ∀ l q, (after (as ++ [.advance k])).UnderWay l q ↔
      ((after as).UnderWay l q ∧ l ≠ k) ∨ l = k ∧ next.under? = some q := by
    intro l q
    rw [UnderWay, h.result]
    exact exists_put (fun _ => rfl) h.moves.tasks l q
  have here : ∀ q, (after as).UnderWay k q ↔ st.under? = some q := by
    intro q
    constructor
    · rintro ⟨st', found, hq⟩
      rw [h.found, Option.some.injEq] at found
      exact found ▸ hq
    · exact fun hq => ⟨st, h.found, hq⟩
  cases h.moves.speaks with
  | nothing silent number still =>
    obtain ⟨quiet, silent⟩ := status?_seen_of_silent (k := k) silent
    rw [quiet, List.append_nil] at sent
    rw [statusesIn_mark next silent, List.append_nil] at same
    refine .nothing same sent (last.trans number) fun l q => ?_
    rw [under, still, ← here]
    by_cases hl : l = k
    · simp [hl]
    · simp [hl]
  | start p clear speaks number newest =>
    subst speaks
    have clear : ∀ q, ¬ (after as).UnderWay k q := by
      intro q hq
      rw [here, clear] at hq
      cases hq
    refine .start k p same sent number (last.trans newest) clear fun l q => ?_
    rw [under]
    have away : (after as).UnderWay l q → l ≠ k := by
      rintro hu rfl
      exact clear q hu
    constructor
    · rintro (⟨hu, _⟩ | ⟨hl, hq⟩)
      · exact Or.inl hu
      · exact Or.inr ⟨hl, (Option.some.inj hq).symm⟩
    · rintro (hu | ⟨hl, rfl⟩)
      · exact Or.inl ⟨hu, away hu⟩
      · exact Or.inr ⟨hl, rfl⟩
  | stop p phase es busy speaks ends number =>
    subst speaks
    refine .stop k p phase ends same sent (last.trans number) ((here p).mpr busy) fun l q => ?_
    rw [under]
    constructor
    · rintro (hu | ⟨_, hq⟩)
      · exact hu
      · cases hq
    · exact Or.inl

theorem tells_of_kept (as : List Action) (kept : ∀ k, a ≠ .drop k) : Tells as a := by
  rcases does_or_still as a with ⟨k, st, t, next, rfl, does⟩ | ⟨still, same⟩
  · exact does.tells
  have silent : ((after as).act a).2.filterMap Effect.status? = [] := by
    rw [List.filterMap_eq_nil_iff]
    intro e he
    obtain ⟨id, rfl⟩ := (step_act (after as) a).woken still e he
    rfl
  refine .nothing (congrArg statusesIn same) ?_ ?_ fun k p => ?_
  · rw [statuses_snoc, silent, List.append_nil]
  · exact (schedule_still kept still).2
  · exact tasks_still (fun _ => rfl) (fun _ => rfl) under?_back (fun _ _ => rfl) kept still k p

/-- The starts that have been told, the last at the end. -/
def starts (as : List Action) : List Status := (statuses as).filter fun x => x.phase.begins

theorem starts_snoc {x : Status} (sent : statuses (as ++ [a]) = statuses as ++ [x]) :
    starts (as ++ [a]) = starts as ++ if x.phase.begins then [x] else [] := by
  rw [starts, sent, List.filter_append, List.filter_singleton, Bool.cond_eq_ite, starts]

theorem begins_of_ends {phase : Phase} (ends : phase = .stop ∨ phase = .error) :
    phase.begins = false := by
  rcases ends with rfl | rfl <;> rfl

theorem numbered_after (as : List Action) (kept : ∀ k, .drop k ∉ as) :
    (starts as).map Status.id = (List.range (starts as).length).map (fun i => UInt64.ofNat (i + 1)) ∧
    (after as).lastNumber = UInt64.ofNat (starts as).length := by
  induction as using List.reverseRecOn with
  | nil => exact ⟨rfl, rfl⟩
  | append_singleton as a ih =>
    obtain ⟨numbers, last⟩ := ih fun k hk => kept k (List.mem_append_left _ hk)
    have kept : ∀ k, a ≠ .drop k := by
      rintro k rfl
      exact kept k (by simp)
    cases tells_of_kept as kept with
    | nothing same silent number still =>
      rw [starts, silent, number]
      exact ⟨numbers, last⟩
    | start k p same sent number newest clear under =>
      have one : p.number = UInt64.ofNat ((starts as).length + 1) := by
        rw [number, last, UInt64.ofNat_add]
        rfl
      have hs : starts (as ++ [a]) = starts as ++ [p.status (.ofOptions p.request.options)] := by
        rw [starts_snoc sent]
        exact congrArg _ (if_pos (Phase.begins_ofOptions _))
      rw [hs, List.length_append, List.map_append, numbers, newest, one, List.length_singleton,
        List.range_succ, List.map_append]
      exact ⟨congrArg _ (congrArg (fun n => [n]) one), rfl⟩
    | stop k p phase ends same sent number here under =>
      have hs : starts (as ++ [a]) = starts as := by
        rw [starts_snoc sent]
        exact (congrArg _ (if_neg (by simp [Pass.status, begins_of_ends ends]))).trans
          (List.append_nil _)
      rw [hs, number]
      exact ⟨numbers, last⟩

/-- Statuses of passes that do not overlap: each tells its start and then its end, before the next
one begins. A pass may be under way at the last. -/
inductive OneByOne : List Status → Option Pass → Prop
  | none : OneByOne [] none
  | start {xs : List Status} (p : Pass) (before : OneByOne xs none) :
      OneByOne (xs ++ [p.status (.ofOptions p.request.options)]) (some p)
  | stop {xs : List Status} (p : Pass) (phase : Phase) (ends : phase = .stop ∨ phase = .error)
      (before : OneByOne xs (some p)) : OneByOne (xs ++ [p.status phase]) none

def statusesFor (u : Url) (as : List Action) : List Status :=
  (statuses as).filter fun x => x.documents.contains u

theorem UnderWay.unique (hp : s.UnderWay k p) (hq : s.UnderWay k q) : p = q := by
  obtain ⟨st, found, hp⟩ := hp
  obtain ⟨st', found', hq⟩ := hq
  rw [found, Option.some.injEq] at found'
  subst found'
  rw [hp, Option.some.injEq] at hq
  exact hq

theorem UnderWay.holds (h : s.UnderWay k p) : s.holds k p.url p.ticket := by
  obtain ⟨st, found, hu⟩ := h
  exact holds_of_pass found (pass?_of_under hu) rfl

theorem Does.owns (h : Does as k st t next)
    (before : ∀ l m, (after as).holds l u m → (after as).schedule.owns u m = true)
    (unclosed : st ≠ .fresh (.close u)) {l m : Nat}
    (holds : (after (as ++ [.advance k])).holds l u m) :
    (after (as ++ [.advance k])).schedule.owns u m = true := by
  rw [h.schedule]
  rw [h.result, holds_put h.moves.tasks] at holds
  rcases holds with ⟨there, hl⟩ | ⟨rfl, here⟩
  · exact h.moves.trades.owns_other (held_after as) h.found unclosed hl there (before l m there)
  · obtain ⟨p, hp, he⟩ := Option.map_eq_some_iff.mp here
    cases he
    rcases h.moves.trades.pass_cases hp with ⟨q, hq, he, same⟩ | begun
    · have hu : q.url = p.url := (congrArg Pass.url he).symm
      have ht : q.ticket = p.ticket := (congrArg Pass.ticket he :).symm
      rw [same]
      exact before _ _ (ht ▸ holds_of_pass h.found hq hu)
    · exact begun.owns

/-- Each pass for a document that is never closed owns it. -/
theorem owns_after (as : List Action) (kept : ∀ k, .drop k ∉ as)
    (unclosed : ∀ l, .call l (.close u) ∉ as) {m : Nat} (holds : (after as).holds k u m) :
    (after as).schedule.owns u m = true := by
  induction as using List.reverseRecOn generalizing k m with
  | nil =>
    obtain ⟨st, found, _⟩ := holds
    cases found
  | append_singleton as a ih =>
    have uncalled : ∀ l, .call l (.close u) ∉ as := fun l hl =>
      unclosed l (List.mem_append_left _ hl)
    have before : ∀ l m, (after as).holds l u m → (after as).schedule.owns u m = true :=
      fun l m hh => ih (fun l hl => kept l (List.mem_append_left _ hl)) uncalled hh
    rcases does_or_still as a with ⟨l, old, t, next, rfl, does⟩ | ⟨still, _⟩
    · refine does.owns before ?_ holds
      rintro rfl
      exact not_fresh_after uncalled l does.found
    · have kept : ∀ k, a ≠ .drop k := by
        rintro k rfl
        exact kept k (by simp)
      rw [(schedule_still kept still).1]
      exact before k m ((tasks_still (fun _ => rfl) (fun _ => rfl) holding?_back (fun _ _ => rfl)
        kept still k (u, m)).mp holds)

/-- At most one task is at a pass for a document that is never closed. -/
theorem UnderWay.alone (hp : (after as).UnderWay k p) (kept : ∀ k, .drop k ∉ as)
    (unclosed : ∀ l, .call l (.close u) ∉ as) (hu : p.url = u) {l : Nat}
    (hq : (after as).UnderWay l q) (hv : q.url = u) : k = l := by
  have hk : (after as).holds k u p.ticket := hu ▸ hp.holds
  have hl : (after as).holds l u q.ticket := hv ▸ hq.holds
  obtain ⟨slot, hm, ht⟩ := Schedule.owns_iff.mp (owns_after as kept unclosed hk)
  obtain ⟨slot', hn, ht'⟩ := Schedule.owns_iff.mp (owns_after as kept unclosed hl)
  rw [hm, Option.some.injEq] at hn
  subst hn
  exact (held_after as).apart _ _ _ _ _ (ht ▸ hk) (ht' ▸ hl)

theorem statusesFor_snoc {x : Status} (sent : statuses (as ++ [a]) = statuses as ++ [x]) :
    statusesFor u (as ++ [a]) = statusesFor u as ++ if x.documents.contains u then [x] else [] := by
  rw [statusesFor, sent, List.filter_append, List.filter_singleton, Bool.cond_eq_ite, statusesFor]

theorem contains_documents (p : Pass) (phase : Phase) (u : Url) :
    (p.status phase).documents.contains u = true ↔ p.url = u := by
  simp [Pass.status, eq_comm]

/-- The passes for a document that is never closed tell their starts and ends one after the other.
One of them is under way if it has told its start alone. -/
theorem oneByOne_after (as : List Action) (kept : ∀ k, .drop k ∉ as)
    (unclosed : ∀ l, .call l (.close u) ∉ as) :
    ∃ o, OneByOne (statusesFor u as) o ∧
      ∀ p, o = some p ↔ p.url = u ∧ ∃ k, (after as).UnderWay k p := by
  induction as using List.reverseRecOn with
  | nil =>
    refine ⟨none, .none, fun p => ⟨nofun, ?_⟩⟩
    rintro ⟨_, k, st, found, _⟩
    cases found
  | append_singleton as a ih =>
    obtain ⟨o, ordered, under⟩ := ih (fun l hl => kept l (List.mem_append_left _ hl))
      fun l hl => unclosed l (List.mem_append_left _ hl)
    have kept' : ∀ k, a ≠ .drop k := by
      rintro k rfl
      exact kept k (by simp)
    cases tells_of_kept as kept' with
    | nothing same silent number still =>
      refine ⟨o, ?_, ?_⟩
      · rwa [statusesFor, silent]
      · simpa only [still] using under
    | start k p same sent number newest clear now =>
      rw [statusesFor_snoc sent]
      by_cases hu : p.url = u
      · have free : o = none := by
          rw [Option.eq_none_iff_forall_ne_some]
          intro q hq
          obtain ⟨hv, l, there⟩ := (under q).mp hq
          have hk : (after (as ++ [a])).UnderWay k p := (now k p).mpr (Or.inr ⟨rfl, rfl⟩)
          have hl : (after (as ++ [a])).UnderWay l q := (now l q).mpr (Or.inl there)
          cases hl.alone kept unclosed hv hk hu
          exact clear q there
        subst free
        rw [if_pos ((contains_documents p _ u).mpr hu)]
        refine ⟨some p, .start p ordered, fun q => ?_⟩
        simp only [now, Option.some.injEq]
        constructor
        · rintro rfl
          exact ⟨hu, k, Or.inr ⟨rfl, rfl⟩⟩
        · rintro ⟨hv, l, there | ⟨_, rfl⟩⟩
          · cases (under q).mpr ⟨hv, l, there⟩
          · rfl
      · rw [if_neg (mt (contains_documents p _ u).mp hu), List.append_nil]
        refine ⟨o, ordered, fun q => ?_⟩
        rw [under]
        refine and_congr_right fun hv => exists_congr fun l => ?_
        rw [now, or_iff_left]
        rintro ⟨_, rfl⟩
        exact hu hv
    | stop k p phase ends same sent number here now =>
      rw [statusesFor_snoc sent]
      by_cases hu : p.url = u
      · cases (under p).mpr ⟨hu, k, here⟩
        rw [if_pos ((contains_documents p _ u).mpr hu)]
        refine ⟨none, .stop p phase ends ordered, fun q => ⟨nofun, ?_⟩⟩
        rintro ⟨hv, l, hl⟩
        obtain ⟨there, apart⟩ := (now l q).mp hl
        cases (under q).mpr ⟨hv, l, there⟩
        exact (apart (there.alone (fun l hl => kept l (List.mem_append_left _ hl))
          (fun l hl => unclosed l (List.mem_append_left _ hl)) hu here hu)).elim
      · rw [if_neg (mt (contains_documents p _ u).mp hu), List.append_nil]
        refine ⟨o, ordered, fun q => ?_⟩
        rw [under]
        refine and_congr_right fun hv => exists_congr fun l => ?_
        rw [now, and_iff_left_of_imp]
        rintro there rfl
        exact hu (here.unique there ▸ hv)

/-- Deeds between the start of a pass and its end: nothing is told, and what is shown is for the
document of the pass, nothing or what linting has found. -/
structure Within (p : Pass) (ds : List Deed) : Prop where
  untold : ds.filterMap Deed.status? = []
  unyielded : ∀ es, .yields es ∉ ds
  lints : ∀ outcome, .lints outcome ∈ ds → p.Comes outcome
  shows : ∀ v found, .calls (.publish v found) ∈ ds →
    v = p.url ∧ (found = [] ∨ ∃ r, .lints (.ok r) ∈ ds ∧ found = r.diagnostics)

/-- What a pass does, as far as it has come. -/
inductive Life (p : Pass) : List Deed → Prop
  | ahead (ds : List Deed) (before : ds = [] ∨ ds = p.opening) : Life p ds
  | under (inner : List Deed) (within : Within p inner) (sound : ∀ e, .lints (.error e) ∉ inner) :
      Life p (p.opening ++ p.starts :: inner)
  | stopped (inner last : List Deed) (within : Within p inner)
      (sound : ∀ e, .lints (.error e) ∉ inner) (ends : last = [] ∨ ∃ es, last = [.yields es]) :
      Life p (p.opening ++ p.starts :: (inner ++ p.tells .stop :: last))
  /-- A pass that fails shows nothing after its start, and it gives no edits. -/
  | failed (inner last : List Deed) (within : Within p inner) (e : LintError)
      (fails : .lints (.error e) ∈ inner) (silent : ∀ v found, .calls (.publish v found) ∉ inner)
      (ends : last = [] ∨ last = [.yields []]) :
      Life p (p.opening ++ p.starts :: (inner ++ p.tells .error :: last))

theorem Within.nil (p : Pass) : Within p [] := by
  constructor <;> simp

theorem Within.asks (p : Pass) (asked : Bool) : Within p (p.asks asked) := by
  cases asked <;> constructor <;> simp [Pass.asks, Deed.status?]

theorem Within.linted (asked : Bool) {outcome : Except LintError Report} (comes : p.Comes outcome)
    (shown : l = [] ∨ ∃ r, outcome = .ok r ∧
      (l = [p.shows r.diagnostics] ∨ l = [p.shows r.diagnostics, p.shows []])) :
    Within p (p.asks asked ++ .lints outcome :: l) := by
  rcases shown with rfl | ⟨r, rfl, rfl | rfl⟩ <;> cases asked <;> constructor <;>
    simp +contextual [Pass.asks, Pass.shows, Deed.status?, comes, or_imp]

theorem Inner.within {inner : List Deed} {phase : Phase} {es : List Edit}
    (h : Inner p inner phase es) : Within p inner := by
  cases h with
  | gone => exact .nil p
  | missing e comes => exact .linted false comes (Or.inl rfl)
  | failed asked e comes => exact .linted asked comes (Or.inl rfl)
  | late asked r comes => exact .linted asked comes (Or.inl rfl)
  | takenBack asked r comes => exact .linted asked comes (Or.inr ⟨r, rfl, Or.inr rfl⟩)
  | formatted asked r comes | kept asked r comes =>
    exact .linted asked comes (Or.inr ⟨r, rfl, Or.inl rfl⟩)

theorem Inner.ends {inner : List Deed} {phase : Phase} {es : List Edit}
    (h : Inner p inner phase es) : phase = .stop ∨ phase = .error := by
  cases h <;> simp

theorem sound_asks (p : Pass) (asked : Bool) (e : LintError) :
    .lints (.error e) ∉ p.asks asked := by
  cases asked <;> simp [Pass.asks]

theorem silent_asks (p : Pass) (asked : Bool) (v : Url) (found : List Diagnostic) :
    .calls (.publish v found) ∉ p.asks asked := by
  cases asked <;> simp [Pass.asks]

theorem Inner.life {inner last : List Deed} {phase : Phase} {es : List Edit}
    (h : Inner p inner phase es) (ends : last = [] ∨ last = [.yields es]) :
    Life p (p.opening ++ p.starts :: (inner ++ p.tells phase :: last)) := by
  have within := h.within
  have yields : last = [] ∨ ∃ es, last = [.yields es] := ends.imp_right fun h => ⟨es, h⟩
  cases h with
  | missing e comes => exact .failed _ last within e (by simp) (by simp) ends
  | failed asked e comes =>
    exact .failed _ last within e (by simp) (by simp [silent_asks]) ends
  | gone => exact .stopped _ last within (by simp) yields
  | late asked r comes => exact .stopped _ last within (by simp [sound_asks]) yields
  | takenBack asked r comes | formatted asked r comes | kept asked r comes =>
    exact .stopped _ last within (by simp [sound_asks, Pass.shows]) yields

theorem Whole.life (h : Whole p l) : Life p l := by
  obtain ⟨inner, phase, es, ends, rfl⟩ := h
  exact ends.life (Or.inr rfl)

theorem Sofar.life (h : Sofar p st l) : Life p l := by
  cases h with
  | clear plain opened => exact .ahead _ (Or.inl rfl)
  | clearing | cleared => exact .ahead _ (Or.inr rfl)
  | announcing | announced | wanting => exact .under [] (.nil p) (by simp)
  | asking n | asked n x => exact .under _ (.asks p true) (sound_asks p true)
  | linting settings asked | linted settings asked =>
    exact .under _ (.asks p asked) (sound_asks p asked)
  | replace r asked comes =>
    exact .under _ (.linted asked comes (Or.inl rfl)) (by simp [sound_asks])
  | replacing r asked comes | replaced r x asked comes | purge r asked comes
  | record r artifact asked comes plain =>
    refine .under _ (.linted asked comes (Or.inr ⟨r, rfl, Or.inl rfl⟩)) ?_
    simp [sound_asks, Pass.shows]
  | purging r asked comes | purged r x asked comes =>
    refine .under _ (.linted asked comes (Or.inr ⟨r, rfl, Or.inr rfl⟩)) ?_
    simp [sound_asks, Pass.shows]
  | closing phase es inner ends | closed phase es x inner ends => exact ends.life (Or.inl rfl)

theorem status?_opening (p : Pass) : p.opening.filterMap Deed.status? = [] := by
  unfold Pass.opening
  split <;> rfl

/-- A pass tells its start, and then its end at the most. -/
theorem Life.statuses (h : Life p l) :
    l.filterMap Deed.status? = [] ∨
    l.filterMap Deed.status? = [p.status (.ofOptions p.request.options)] ∨
    ∃ phase, (phase = .stop ∨ phase = .error) ∧
      l.filterMap Deed.status? = [p.status (.ofOptions p.request.options), p.status phase] := by
  cases h with
  | ahead ds before =>
    rcases before with rfl | rfl
    · exact Or.inl rfl
    · exact Or.inl (status?_opening p)
  | under inner within =>
    right
    left
    simp [status?_opening, within.untold, Pass.starts, Pass.tells, Deed.status?]
  | stopped inner last within sound ends =>
    refine Or.inr (Or.inr ⟨.stop, Or.inl rfl, ?_⟩)
    rcases ends with rfl | ⟨es, rfl⟩ <;>
      simp [status?_opening, within.untold, Pass.starts, Pass.tells, Deed.status?]
  | failed inner last within e fails silent ends =>
    refine Or.inr (Or.inr ⟨.error, Or.inr rfl, ?_⟩)
    rcases ends with rfl | rfl <;>
      simp [status?_opening, within.untold, Pass.starts, Pass.tells, Deed.status?]

theorem Whole.statuses (h : Whole p l) : ∃ phase, (phase = .stop ∨ phase = .error) ∧
    l.filterMap Deed.status? = [p.status (.ofOptions p.request.options), p.status phase] := by
  obtain ⟨inner, phase, es, ends, rfl⟩ := h
  refine ⟨phase, ends.ends, ?_⟩
  simp [status?_opening, ends.within.untold, Pass.starts, Pass.tells, Deed.status?]

theorem statuses_eq (as : List Action) (kept : ∀ k, .drop k ∉ as) :
    statuses as = (told as).map Prod.snd := by
  induction as using List.reverseRecOn with
  | nil => rfl
  | append_singleton as a ih =>
    have ih := ih fun k hk => kept k (List.mem_append_left _ hk)
    have kept : ∀ k, a ≠ .drop k := by
      rintro k rfl
      exact kept k (by simp)
    cases tells_of_kept as kept with
    | nothing same silent => rw [silent, same, ih]
    | start k p same sent | stop k p phase ends same sent => rw [sent, same, List.map_append, ih]; rfl

theorem statusesIn_under (m : Nat) (log : List (Nat × Deed)) :
    ((statusesIn log).filter (·.1 = m)).map Prod.snd = (under m log).filterMap Deed.status? := by
  induction log with
  | nil => rfl
  | cons e log ih =>
    obtain ⟨n, d⟩ := e
    rw [statusesIn, under] at *
    by_cases hn : n = m <;> cases hd : d.status? <;> simp [hn, hd, ih]

/-- The statuses that carry a number. -/
def statusesOf (n : UInt64) (as : List Action) : List Status := (statuses as).filter (·.id = n)

theorem deeds_of_told {m : Nat} {x : Status} (h : (m, x) ∈ told as) :
    x ∈ (deeds m as).filterMap Deed.status? := by
  rw [deeds, ← statusesIn_under]
  exact List.mem_map.mpr ⟨(m, x), List.mem_filter.mpr ⟨h, by simp⟩, rfl⟩

theorem told_of_deeds {m : Nat} {x : Status} (h : x ∈ (deeds m as).filterMap Deed.status?) :
    (m, x) ∈ told as := by
  rw [deeds, ← statusesIn_under] at h
  obtain ⟨⟨n, y⟩, hy, rfl⟩ := List.mem_map.mp h
  obtain ⟨there, hn⟩ := List.mem_filter.mp hy
  exact of_decide_eq_true hn ▸ there

/-- The statuses with a ticket are those of one pass: its start, and then its end at the most. While
there is no end, a task is at the pass. -/
structure ToldBy (as : List Action) (p : Pass) (xs : List Status) : Prop where
  arisen : Arisen p as
  shape : xs = [p.status (.ofOptions p.request.options)] ∧
      (∃ k st, (after as).tasks.get? k = some st ∧ st.pass? = some p) ∨
    ∃ phase, (phase = .stop ∨ phase = .error) ∧
      xs = [p.status (.ofOptions p.request.options), p.status phase]

theorem ToldBy.start {xs : List Status} (h : ToldBy as p xs) :
    p.status (.ofOptions p.request.options) ∈ xs := by
  rcases h.shape with ⟨rfl, _⟩ | ⟨phase, _, rfl⟩ <;> simp

theorem ToldBy.number {xs : List Status} (h : ToldBy as p xs) {x : Status} (hx : x ∈ xs) :
    x.id = p.number := by
  rcases h.shape with ⟨rfl, _⟩ | ⟨phase, _, rfl⟩
  · rw [List.mem_singleton.mp hx]
    rfl
  · rcases List.mem_pair.mp hx with rfl | rfl <;> rfl

theorem toldBy_after (as : List Action) (kept : ∀ k, .drop k ∉ as) {m : Nat} {x : Status}
    (h : (m, x) ∈ told as) :
    ∃ p, p.ticket = m ∧ ToldBy as p ((deeds m as).filterMap Deed.status?) := by
  have hx := deeds_of_told h
  have begun : deeds m as ≠ [] := by
    intro none
    rw [none] at hx
    cases hx
  obtain ⟨p, hp, arisen, ⟨k, st, found, hst, sofar⟩ | ⟨_, whole⟩⟩ := pass_after as kept begun
  · refine ⟨p, hp, arisen, ?_⟩
    rcases sofar.life.statuses with none | one | two
    · rw [none] at hx
      cases hx
    · exact Or.inl ⟨one, k, st, found, hst⟩
    · exact Or.inr two
  · exact ⟨p, hp, arisen, Or.inr whole.statuses⟩

/-- The numbers of the starts are told apart, as long as they do not run out. -/
theorem ids_nodup (as : List Action) (kept : ∀ k, .drop k ∉ as)
    (few : (starts as).length < UInt64.size) : ((starts as).map Status.id).Nodup := by
  rw [(numbered_after as kept).1]
  refine List.nodup_range.map_on fun i hi j hj he => ?_
  rw [List.mem_range] at hi hj
  have := congrArg UInt64.toNat he
  rw [UInt64.toNat_ofNat_of_lt' (by omega), UInt64.toNat_ofNat_of_lt' (by omega)] at this
  omega

theorem ticket_of_number (as : List Action) (kept : ∀ k, .drop k ∉ as)
    (few : (starts as).length < UInt64.size) (same : p.number = q.number)
    (hp : (p.ticket, p.status (.ofOptions p.request.options)) ∈ told as)
    (hq : (q.ticket, q.status (.ofOptions q.request.options)) ∈ told as) : p.ticket = q.ticket := by
  have nodup : (((told as).filter fun e => e.2.phase.begins).map fun e => e.2.id).Nodup := by
    have h := ids_nodup as kept few
    rwa [starts, statuses_eq as kept, List.filter_map, List.map_map] at h
  have there : ∀ r : Pass, (r.ticket, r.status (.ofOptions r.request.options)) ∈ told as →
      (r.ticket, r.status (.ofOptions r.request.options)) ∈
        (told as).filter fun e => e.2.phase.begins := fun r hr =>
    List.mem_filter.mpr ⟨hr, Phase.begins_ofOptions _⟩
  exact congrArg Prod.fst (List.inj_on_of_nodup_map nodup (there p hp) (there q hq) same)

/-- As long as the numbers do not run out, the statuses with a number are those of one pass: its
start, and then its end at the most. -/
theorem statusesOf_after (as : List Action) (kept : ∀ k, .drop k ∉ as)
    (few : (starts as).length < UInt64.size) {n : UInt64} (sent : statusesOf n as ≠ []) :
    ∃ p, p.number = n ∧ ToldBy as p (statusesOf n as) := by
  rw [statusesOf, statuses_eq as kept, List.filter_map] at sent ⊢
  obtain ⟨⟨m, x⟩, hx⟩ := List.exists_mem_of_ne_nil _ (mt List.map_eq_nil_iff.mpr sent)
  obtain ⟨hx, hn⟩ := List.mem_filter.mp hx
  have carried : x.id = n := of_decide_eq_true hn
  obtain ⟨p, rfl, toldBy⟩ := toldBy_after as kept hx
  have number : p.number = n := (toldBy.number (deeds_of_told hx)).symm.trans carried
  have same : ∀ e ∈ told as, decide (e.2.id = n) = decide (e.1 = p.ticket) := by
    rintro ⟨l, y⟩ hy
    refine decide_eq_decide.mpr ⟨fun hl => ?_, ?_⟩
    · obtain ⟨q, rfl, other⟩ := toldBy_after as kept hy
      refine ticket_of_number as kept few ?_ (told_of_deeds other.start) (told_of_deeds toldBy.start)
      exact (other.number (deeds_of_told hy)).symm.trans (hl.trans number.symm)
    · rintro rfl
      exact (toldBy.number (deeds_of_told hy)).trans number
  refine ⟨p, number, ?_⟩
  rwa [Function.comp_def, List.filter_congr same, told, statusesIn_under]

theorem elapsed_after (as : List Action) (kept : ∀ k, .drop k ∉ as) :
    ∀ x ∈ statuses as, x.elapsed.isSome = true → x.phase = .stop := by
  intro x hx timed
  rw [statuses_eq as kept] at hx
  obtain ⟨⟨m, y⟩, hy, rfl⟩ := List.mem_map.mp hx
  obtain ⟨p, _, toldBy⟩ := toldBy_after as kept hy
  obtain ⟨phase, rfl⟩ : ∃ phase, y = p.status phase := by
    have there := deeds_of_told hy
    rcases toldBy.shape with ⟨he, _⟩ | ⟨phase, _, he⟩ <;> rw [he] at there
    · exact ⟨_, List.mem_singleton.mp there⟩
    · rcases List.mem_pair.mp there with rfl | rfl <;> exact ⟨_, rfl⟩
  change (if phase = .stop then some (0 : UInt64) else none).isSome = true at timed
  split at timed
  · assumption
  · cases timed

/-- In a session in which no task is dropped:
* the starts are numbered from 1 on, in their order;
* as long as the numbers do not run out, the statuses with a number are those of one pass, its start
  and then its end at the most; a task is at the pass while there is no end, and only the end tells
  how long it took;
* each pass takes away what is shown before its start if it is plain and its document open, shows
  what it finds between its start and its end, and fails exactly if linting does, without showing
  anything or giving any edits; a pass that no task is at has told its end;
* the passes for a document that is never closed tell their starts and ends one after the other. -/
theorem statuses_orderly (as : List Action) (kept : ∀ k, .drop k ∉ as) :
    (starts as).map Status.id = (List.range (starts as).length).map (fun i => UInt64.ofNat (i + 1)) ∧
    ((starts as).length < UInt64.size → ((starts as).map Status.id).Nodup ∧
      ∀ n, statusesOf n as ≠ [] → ∃ p, p.number = n ∧ ToldBy as p (statusesOf n as)) ∧
    (∀ x ∈ statuses as, x.elapsed.isSome = true → x.phase = .stop) ∧
    (∀ m, deeds m as ≠ [] → ∃ p, p.ticket = m ∧ Arisen p as ∧ Life p (deeds m as) ∧
      ((∀ k u, ¬ (after as).holds k u m) →
        p.tells .stop ∈ deeds m as ∨ p.tells .error ∈ deeds m as)) ∧
    ∀ u, (∀ l, .call l (.close u) ∉ as) → ∃ o, OneByOne (statusesFor u as) o := by
  refine ⟨(numbered_after as kept).1, fun few => ⟨ids_nodup as kept few,
    fun n sent => statusesOf_after as kept few sent⟩, elapsed_after as kept, fun m begun => ?_,
    fun u unclosed => ?_⟩
  · obtain ⟨p, rfl, arisen, ⟨k, st, found, hst, sofar⟩ | ⟨_, whole⟩⟩ := pass_after as kept begun
    · refine ⟨p, rfl, arisen, sofar.life, fun unheld => ?_⟩
      exact (unheld k p.url (holds_of_pass found hst rfl)).elim
    · refine ⟨p, rfl, arisen, whole.life, fun _ => ?_⟩
      obtain ⟨inner, phase, es, ends, he⟩ := whole
      rw [he]
      rcases ends.ends with rfl | rfl <;> simp
  · obtain ⟨o, ordered, _⟩ := oneByOne_after as kept unclosed
    exact ⟨o, ordered⟩

/-- Two passes on a document, one after the other. -/
theorem statuses_orderly_renumbered :
    (∀ k, .drop k ∉ renumbered) ∧
    (statuses renumbered).map (fun x => (x.id, x.phase)) =
      [(1, .start), (1, .stop), (2, .start), (2, .stop)] ∧
    (∃ p, p.number = 2 ∧ ToldBy renumbered p (statusesOf 2 renumbered)) ∧
    ∃ o, OneByOne (statusesFor notes renumbered) o := by
  have kept : ∀ k, .drop k ∉ renumbered := by simp [renumbered, untilFix, sinceFix]
  have told : (statuses renumbered).map (fun x => (x.id, x.phase)) =
      [(1, .start), (1, .stop), (2, .start), (2, .stop)] := by decide +kernel
  have few : (starts renumbered).length = 2 := by decide +kernel
  have sent : (statusesOf 2 renumbered).length = 2 := by decide +kernel
  obtain ⟨_, numbers, _, _, inTurn⟩ := statuses_orderly renumbered kept
  refine ⟨kept, told, (numbers (by rw [few]; decide)).2 2 ?_, inTurn notes ?_⟩
  · intro none
    rw [none] at sent
    cases sent
  · simp [renumbered, untilFix, sinceFix]

end Session

end Considerate
