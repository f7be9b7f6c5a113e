import Considerate.Proofs.Session.Load
import Considerate.Session.Run

namespace Considerate.Session

def Action.isInner : Action → Bool
  | .advance _ | .answer _ _ | .linted _ => true
  | _ => false

theorem Action.uncalled {a : Action} (inner : a.isInner = true) (id : Nat) (job : Job) :
    a ≠ .call id job := by
  rintro rfl
  cases inner

section

variable {s t : Session} {a : Action} {es : List Effect} (h : Step s a t es)
  (uncalled : ∀ id job, a ≠ .call id job) {k : Nat}

include h uncalled

theorem Step.absent (absent : s.tasks.get? k = none) : t.tasks.get? k = none := by
  cases there : t.tasks.get? k with
  | none => rfl
  | some st =>
    cases h.arises there with
    | called job => exact (uncalled k job rfl).elim
    | stays a found | moved old t found | answered c next x found | linted p settings found =>
      rw [absent] at found
      cases found

theorem Step.fresh {job : Job} (there : t.tasks.get? k = some (.fresh job)) :
    s.tasks.get? k = some (.fresh job) := by
  cases h.arises there with
  | called job' => exact (uncalled k job' rfl).elim
  | stays a found => exact found
  | moved old t found ready moves => exact (moves.ne_fresh rfl).elim
  | answered c next x found back => cases back
  | linted p settings found ended => cases ended

end

def Effect.ended? : Effect → Option (Nat × Value)
  | .finished id v => some (id, v)
  | _ => none

theorem ended?_woken (ks : List Nat) : (ks.map Effect.woken).filterMap Effect.ended? = [] := by
  simp [List.filterMap_map, Function.comp_def, Effect.ended?]

namespace Run

variable {r r' : Run} {id : Nat} {st next : Stage} {es : List Effect}

theorem note_woken (ks : List Nat) (r : Run) :
    (ks.map Effect.woken).foldl note r = { r with ready := r.ready ++ ks } := by
  induction ks generalizing r with
  | nil => simp
  | cons k ks ih => simp [ih, note]

/-- How a run takes notice of the stage that a task has come to. -/
inductive Noted (r : Run) (id : Nat) : Stage → Run → Prop
  | silent (next : Stage) (quiet : ∀ p settings, next ≠ .linting p settings) : Noted r id next r
  | lints (p : Pass) (settings : Settings) :
      Noted r id (.linting p settings) { r with linting := r.linting ++ [id] }
  | held (c : Call) (plan : Return) :
      Noted r id (.calling c plan) { r with held := r.held ++ [(id, c.kind)] }
  | answered (c : Call) (plan : Return) :
      Noted r id (.calling c plan)
        { r with session := (r.session.act (.answer id r.editor.answer)).1 }

theorem noted (r : Run) (id : Nat) (next : Stage) :
    Noted r id next ((seen id next).foldl note r) := by
  cases next with
  | linting p settings => exact .lints p settings
  | calling c plan =>
    simp only [seen, List.foldl_cons, List.foldl_nil, note]
    split
    · exact .held c plan
    · split
      · exact .answered c plan
      · exact .silent _ (by simp)
  | _ => exact .silent _ (by simp)

/-- One step of a run. -/
inductive Goes (r : Run) : Run → List Effect → Prop
  | stuck (id : Nat) (rest : List Nat) (first : r.ready = id :: rest)
      (waits : ∀ st, r.session.tasks.get? id = some st → r.session.canGoOn id st = false) :
      Goes r { r with ready := rest } []
  | moves (id : Nat) (rest : List Nat) (first : r.ready = id :: rest) (st : Stage)
      (found : r.session.tasks.get? id = some st) (ready : r.session.canGoOn id st = true)
      (t : Session) (next : Stage) (moves : Moves r.session id st t next) (r' : Run)
      (noted : Noted { r with
        session := t.put id next
        ready := rest ++ (wokenSince r.session t).filter (· ≠ id) } id next r') :
      Goes r (if r'.canGoOn id then { r' with ready := id :: r'.ready } else r')
        (((wokenSince r.session t).filter (· ≠ id)).map .woken ++ seen id next)
  | lints (id : Nat) (rest : List Nat) (still : r.ready = []) (first : r.linting = id :: rest)
      (p : Pass) (settings : Settings)
      (found : r.session.tasks.get? id = some (.linting p settings)) :
      Goes r { r with session := r.session.put id (.linted p settings), ready := [id], linting := rest }
        [.woken id]
  | gone (id : Nat) (rest : List Nat) (still : r.ready = []) (first : r.linting = id :: rest) :
      Goes r { r with ready := [], linting := rest } []

theorem goes (h : r.step = some (r', es)) : r.Goes r' es := by
  cases first : r.ready with
  | cons id rest =>
    simp only [step, first, act, Option.some.injEq, Prod.mk.injEq] at h
    obtain ⟨rfl, rfl⟩ := h
    by_cases waits : ∀ st, r.session.tasks.get? id = some st → r.session.canGoOn id st = false
    · have stays : ({ r with ready := rest } : Run).canGoOn id = false := by
        unfold canGoOn
        split
        · rfl
        · rename_i st found
          exact waits st found
      simp only [act_stuck waits, List.foldl_nil, stays, Bool.false_eq_true, if_false]
      exact .stuck id rest first waits
    · simp only [not_forall, Bool.not_eq_false] at waits
      obtain ⟨st, found, ready⟩ := waits
      simp only [act_advance found ready, List.foldl_append, note_woken]
      exact .moves id rest first st found ready _ _ (moves_advance r.session id st ready) _ (noted ..)
  | nil =>
    cases oldest : r.linting with
    | nil => simp [step, first, oldest] at h
    | cons id rest =>
      simp only [step, first, oldest, act, Option.some.injEq, Prod.mk.injEq] at h
      obtain ⟨rfl, rfl⟩ := h
      have acts := step_act r.session (.linted id)
      generalize r.session.act (.linted id) = result at acts
      obtain ⟨t, es⟩ := result
      cases acts with
      | linted _ p settings found =>
        simp only [List.foldl_cons, List.foldl_nil, note]
        exact .lints id rest first oldest p settings found
      | idle => exact .gone id rest first oldest

/-- What every inner action preserves is preserved by a step. -/
theorem Goes.keeps {P : Session → Prop}
    (kept : ∀ {s a t es}, Step s a t es → a.isInner = true → P s → P t) (h : r.Goes r' es)
    (hp : P r.session) : P r'.session := by
  cases h with
  | stuck | gone => exact hp
  | lints id rest still first p settings found => exact kept (.linted id p settings found) rfl hp
  | moves id rest first st found ready t next moves r' noted =>
    have moved := kept (.advance id st found ready t next moves) rfl hp
    have : P r'.session := by
      cases noted with
      | silent | lints | held => exact moved
      | answered => exact kept (step_act _ _) rfl moved
    split <;> exact this

def counted (x : Nat → Nat) : List (Nat × Value) → Nat
  | [] => 0
  | e :: ended => x e.1 + counted x ended

def remaining (r : Run) (x : Nat → Nat) : Nat :=
  r.session.load x + r.ready.length + r.linting.length

/-- Taking notice of the stage that a task has come to makes for one more task at the most that is
ready or whose document is being linted. -/
theorem Noted.remaining_le {t : Session} (distinct : t.tasks.Distinct)
    (here : r.session = t.put id next) (h : Noted r id next r') (x : Nat → Nat) :
    r'.remaining x + (if r'.canGoOn id then 1 else 0) ≤ r.remaining x + 1 := by
  cases h with
  | silent | held =>
    simp only [remaining]
    split <;> omega
  | lints p settings =>
    have stays : ({ r with linting := r.linting ++ [id] } : Run).canGoOn id = false := by
      have found : r.session.tasks.get? id = some (.linting p settings) := by
        rw [here]
        exact Keyed.get?_set_self ..
      simp [canGoOn, found, Session.canGoOn]
    rw [stays]
    simp only [remaining, List.length_append, List.length_cons, List.length_nil, Bool.false_eq_true,
      if_false]
    omega
  | answered c plan =>
    have found : r.session.tasks.get? id = some (.calling c plan) := by
      rw [here]
      exact Keyed.get?_set_self ..
    have acts : (r.session.act (.answer id r.editor.answer)).1 =
        r.session.put id (.back plan r.editor.answer) := by
      simp only [Session.act, found]
    have same := load_put (here ▸ distinct_put distinct id _) found (.back plan r.editor.answer) x
    simp only [Stage.gain, ahead, Stage.ahead] at same
    simp only [remaining, acts]
    split <;> omega

theorem Goes.lowers (h : r.Goes r' es) (tidy : r.session.Tidy) (x : Nat → Nat) :
    r'.remaining x + counted x (es.filterMap Effect.ended?) + 1 ≤ r.remaining x := by
  cases h with
  | stuck id rest first =>
    simp only [remaining, first, List.filterMap_nil, counted, List.length_cons]
    omega
  | gone id rest still first =>
    simp only [remaining, still, first, List.filterMap_nil, counted, List.length_cons]
    omega
  | lints id rest still first p settings found =>
    have loads := load_put tidy.distinct found (.linted p settings) x
    simp only [Stage.gain, ahead, Stage.ahead] at loads
    simp only [remaining, still, first, Effect.ended?, List.filterMap_cons, List.filterMap_nil,
      counted, List.length_cons, List.length_nil]
    omega
  | moves id rest first st found ready t next moves r' noted =>
    have loads := moves.load tidy.distinct tidy.inTurn tidy.awaited found ready x
    have gains : next.gain (x id) = counted x ((seen id next).filterMap Effect.ended?) := by
      cases next <;> rfl
    have less := noted.remaining_le (moves.tasks ▸ tidy.distinct) rfl x
    have after : (if r'.canGoOn id then { r' with ready := id :: r'.ready } else r').remaining x =
        r'.remaining x + (if r'.canGoOn id then 1 else 0) := by
      split
      · simp only [remaining, List.length_cons]
        omega
      · rfl
    rw [List.filterMap_append, ended?_woken, List.nil_append, ← gains, after]
    simp only [remaining, first, List.length_append, List.length_cons] at less ⊢
    omega

/-- The bound for the steps is one, also when each task counts for one more that it may start. -/
theorem remaining_le_bound (tidy : r.session.Tidy) {x : Nat → Nat} (few : ∀ k, x k ≤ 23) :
    r.remaining x ≤ r.bound := by
  have tasks : r.session.tasks.sum (fun k st => r.session.ahead k st + x k) ≤
      (Job.worth + 23) * r.session.tasks.entries.length := by
    refine Keyed.sum_le_length_mul tidy.distinct fun k st found => ?_
    have := r.session.ahead_le_most k st
    have := tidy.light k st found
    have := few k
    omega
  simp only [remaining, Session.load, bound, Job.worth, Request.worth] at *
  omega

def Prompt (r : Run) : Prop :=
  ∀ k job, r.session.tasks.get? k = some (.fresh job) → k ∈ r.ready

theorem Noted.fresh {k : Nat} {job : Job} (h : Noted r id next r')
    (there : r'.session.tasks.get? k = some (.fresh job)) :
    r.session.tasks.get? k = some (.fresh job) := by
  cases h with
  | silent | lints | held => exact there
  | answered c plan => exact (step_act r.session (.answer id r.editor.answer)).fresh (by simp) there

theorem Noted.ready (h : Noted r id next r') : r'.ready = r.ready := by
  cases h <;> rfl

theorem Goes.prompt (h : r.Goes r' es) (prompt : r.Prompt) : r'.Prompt := by
  intro k job there
  cases h with
  | stuck id rest first waits =>
    have hk := prompt k job there
    rw [first] at hk
    refine (List.mem_cons.mp hk).resolve_left ?_
    rintro rfl
    cases waits _ there
  | gone id rest still first =>
    have hk := prompt k job there
    rw [still] at hk
    exact hk
  | lints id rest still first p settings found =>
    rcases tasks_put_cases there with ⟨_, he⟩ | ⟨_, there⟩
    · cases he
    · have hk := prompt k job there
      rw [still] at hk
      cases hk
  | moves id rest first st found ready t next moves r' noted =>
    have there : r'.session.tasks.get? k = some (.fresh job) := by
      split at there <;> exact there
    have hk : k ∈ r'.ready := by
      rw [noted.ready]
      rcases tasks_put_cases (noted.fresh there) with ⟨_, he⟩ | ⟨hne, there⟩
      · exact (moves.ne_fresh he.symm).elim
      · rw [moves.tasks] at there
        have hk := prompt k job there
        rw [first] at hk
        exact List.mem_append_left _ ((List.mem_cons.mp hk).resolve_left hne)
    split
    · exact List.mem_cons_of_mem _ hk
    · exact hk

end Run

end Considerate.Session
