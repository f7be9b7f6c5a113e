import Considerate.Proofs.Server.Stages
import Considerate.Proofs.Session.Run

namespace Considerate.Server

open Session (Effect)

variable {s t : Server} {id : Nat} {v : Value} {purpose : Purpose} {job : Job}

/-- What the server becomes when a task for a purpose has ended. -/
inductive Concludes (s : Server) : Purpose → Value → Server → Prop
  | plain (purpose : Purpose) (v : Value) : Concludes s purpose v s
  | delays (u : Url) (version : Int32) (settings : Settings) (onType : settings.strategy = .onType) :
      Concludes s (.changed u version) (.settings settings)
        { s with delays := s.delays ++ [Delay.starting s.now u version] }
  | lints (u : Url) (settings : Settings) (onSave : settings.strategy = .onSave) :
      Concludes s (.saved u) (.settings settings) (s.lintLater u)

theorem concludes (s : Server) (purpose : Purpose) (v : Value) :
    s.Concludes purpose v (s.conclude purpose v).1 := by
  unfold conclude
  split
  · exact .plain ..
  · exact .plain ..
  · exact .plain ..
  · split
    · rename_i onType
      exact .delays _ _ _ onType
    · exact .plain ..
  · split
    · rename_i onSave
      exact .lints _ _ onSave
    · exact .plain ..
  · exact .plain ..

def afterEnd (s : Server) (ended : Nat × Value) : Server :=
  (s.observe (.finished ended.1 ended.2)).1

/-- Which purpose the task had that has ended, if any. -/
inductive Ends (s : Server) (id : Nat) (v : Value) : Server → Prop
  | unknown (unknown : s.purposes.get? id = none) : Ends s id v s
  | known (purpose : Purpose) (found : s.purposes.get? id = some purpose) (t : Server)
      (concludes : Concludes { s with purposes := s.purposes.erase id } purpose v t) : Ends s id v t

theorem ends (s : Server) (id : Nat) (v : Value) : s.Ends id v (s.afterEnd (id, v)) := by
  cases found : s.purposes.get? id with
  | none =>
    simp only [afterEnd, observe, found]
    exact .unknown found
  | some purpose =>
    simp only [afterEnd, observe, found]
    exact .known purpose found _ (concludes ..)

/-- Of all that is to be seen in a session, only the ends of tasks concern the server. -/
theorem observeAll_fst (s : Server) (es : List Effect) :
    (s.observeAll es).1 = (es.filterMap Effect.ended?).foldl afterEnd s := by
  induction es generalizing s with
  | nil => rfl
  | cons e es ih =>
    cases e <;> simp only [observeAll, ih, List.filterMap_cons, Effect.ended?, List.foldl_cons] <;> rfl

/-- The session is tidy, all tasks that are about to start can go on, and the next task is new. -/
structure Tidy (s : Server) : Prop where
  session : s.run.session.Tidy
  prompt : s.run.Prompt
  tasks : ∀ k, s.lastTask < k → s.run.session.tasks.get? k = none
  purposes : ∀ k, s.lastTask < k → s.purposes.get? k = none

theorem Tidy.empty : Tidy {} where
  session := .empty
  prompt k job there := by cases there
  tasks _ _ := rfl
  purposes _ _ := rfl

theorem Tidy.launch (h : s.Tidy) (light : job.ahead ≤ Job.worth) (purpose : Purpose) :
    (s.launch job purpose).Tidy := by
  have new := h.tasks (s.lastTask + 1) (Nat.lt_succ_self _)
  rw [launch_of_new new]
  constructor
  · refine h.session.step (.call _ job (Session.contains_eq_false.mpr new)) ?_
    rintro _ _ ⟨⟩
    exact light
  · intro k job' there
    rcases Session.tasks_put_cases there with ⟨rfl, _⟩ | ⟨_, there⟩
    · simp
    · exact List.mem_append_left _ (h.prompt k job' there)
  · intro k hk
    exact (Keyed.get?_set_ne _ (Nat.ne_of_gt hk) _).trans (h.tasks k (Nat.lt_of_succ_lt hk))
  · intro k hk
    exact (Keyed.get?_set_ne _ (Nat.ne_of_gt hk) _).trans (h.purposes k (Nat.lt_of_succ_lt hk))

theorem Tidy.lintLater (h : s.Tidy) (u : Url) : (s.lintLater u).Tidy :=
  h.launch (Nat.le_refl _) _

theorem Tidy.erase (h : s.Tidy) (id : Nat) : { s with purposes := s.purposes.erase id }.Tidy where
  session := h.session
  prompt := h.prompt
  tasks := h.tasks
  purposes k hk := by
    by_cases hi : k = id
    · subst hi
      exact Keyed.get?_erase_self ..
    · exact (Keyed.get?_erase_ne _ hi).trans (h.purposes k hk)

theorem Tidy.conclude (h : s.Tidy) (concludes : s.Concludes purpose v t) : t.Tidy := by
  cases concludes with
  | plain => exact h
  | delays => exact ⟨h.session, h.prompt, h.tasks, h.purposes⟩
  | lints u => exact h.lintLater u

theorem Tidy.ends (h : s.Tidy) (ends : s.Ends id v t) : t.Tidy := by
  cases ends with
  | unknown => exact h
  | known purpose found t concludes => exact (h.erase _).conclude concludes

/-- What a task counts for beyond its own stages: after a document has been saved a pass may follow. -/
def extra (s : Server) (k : Nat) : Nat :=
  match s.purposes.get? k with
  | some (.saved _) => 23
  | _ => 0

def remaining (s : Server) : Nat := s.run.remaining s.extra

theorem extra_le (s : Server) (k : Nat) : s.extra k ≤ 23 := by
  unfold extra
  split <;> omega

theorem extra_erase_le (s : Server) (id k : Nat) :
    { s with purposes := s.purposes.erase id }.extra k ≤ s.extra k := by
  by_cases hk : k = id
  · subst hk
    simp [extra]
  · simp [extra, Keyed.get?_erase_ne _ hk]

theorem extra_lintLater_le (s : Server) (u : Url) (k : Nat) : (s.lintLater u).extra k ≤ s.extra k := by
  by_cases hk : k = s.lastTask + 1
  · subst hk
    simp [extra, lintLater, launch]
  · simp [extra, lintLater, launch, Keyed.get?_set_ne _ hk]

theorem remaining_mono {r : Session.Run} (tidy : r.session.Tidy) {x y : Nat → Nat}
    (less : ∀ k, x k ≤ y k) : r.remaining x ≤ r.remaining y := by
  have := Session.load_mono tidy.distinct fun k _ _ => less k
  simp only [Session.Run.remaining]
  omega

theorem Tidy.remaining_lintLater (h : s.Tidy) (u : Url) :
    (s.lintLater u).remaining ≤ s.remaining + 22 := by
  have new := h.tasks (s.lastTask + 1) (Nat.lt_succ_self _)
  have less := remaining_mono (h.lintLater u).session (s.extra_lintLater_le u)
  have absent : s.extra (s.lastTask + 1) = 0 := by
    simp [extra, h.purposes _ (Nat.lt_succ_self _)]
  have loads := Session.load_call h.session.distinct new (.validate ⟨u, {}⟩) s.extra
  rw [absent] at loads
  refine Nat.le_trans less ?_
  rw [Server.lintLater, launch_of_new new]
  simp only [remaining, Session.Run.remaining, List.length_append, List.length_cons, List.length_nil,
    Job.ahead] at loads ⊢
  omega

theorem Tidy.remaining_ends (h : s.Tidy) (ends : s.Ends id v t) :
    t.remaining ≤ s.remaining + s.extra id ∧ ∀ k, t.extra k ≤ s.extra k := by
  cases ends with
  | unknown => exact ⟨Nat.le_add_right .., fun k => Nat.le_refl _⟩
  | known purpose found t concludes =>
    have erased := s.extra_erase_le id
    have less := remaining_mono (h.erase id).session erased
    cases concludes with
    | plain | delays => exact ⟨Nat.le_trans less (Nat.le_add_right ..), erased⟩
    | lints u settings onSave =>
      have starts := (h.erase id).remaining_lintLater u
      have counted : s.extra id = 23 := by simp [extra, found]
      refine ⟨?_, fun k => Nat.le_trans (extra_lintLater_le ..) (erased k)⟩
      rw [counted]
      exact Nat.le_trans starts (Nat.add_le_add less (by decide))

theorem Tidy.afterAll (h : s.Tidy) (ended : List (Nat × Value)) {x : Nat → Nat}
    (few : ∀ k, s.extra k ≤ x k) : (ended.foldl afterEnd s).Tidy ∧
      (ended.foldl afterEnd s).remaining ≤ s.remaining + Session.Run.counted x ended := by
  induction ended generalizing s with
  | nil => exact ⟨h, Nat.le_refl _⟩
  | cons e ended ih =>
    obtain ⟨more, less⟩ := h.remaining_ends (s.ends e.1 e.2)
    obtain ⟨tidy, rest⟩ := ih (h.ends (s.ends e.1 e.2)) fun k => Nat.le_trans (less k) (few k)
    refine ⟨tidy, Nat.le_trans rest ?_⟩
    have := few e.1
    simp only [Session.Run.counted]
    omega

/-- The server when it has let its tasks take one step. -/
def stepped (s : Server) (run : Session.Run) (es : List Effect) : Server :=
  ({ s with run }.observeAll es).1

variable {run : Session.Run} {es : List Effect}

theorem Tidy.goes (h : s.Tidy) (goes : s.run.Goes run es) : { s with run }.Tidy where
  session := by
    refine goes.keeps (fun step inner tidy => tidy.step step ?_) h.session
    exact fun id job he => (Session.Action.uncalled inner id job he).elim
  prompt := goes.prompt h.prompt
  tasks k hk := by
    exact goes.keeps (P := fun t => t.tasks.get? k = none)
      (fun step inner absent => step.absent (Session.Action.uncalled inner) absent) (h.tasks k hk)
  purposes := h.purposes

/-- A step keeps the server tidy and lowers what remains to be done. -/
theorem Tidy.step (h : s.Tidy) (hs : s.run.step = some (run, es)) :
    (s.stepped run es).Tidy ∧ (s.stepped run es).remaining + 1 ≤ s.remaining := by
  have goes := Session.Run.goes hs
  have lowers := goes.lowers h.session s.extra
  obtain ⟨tidy, less⟩ := (h.goes goes).afterAll (es.filterMap Effect.ended?)
    (x := s.extra) fun k => Nat.le_refl _
  rw [stepped, observeAll_fst]
  refine ⟨tidy, ?_⟩
  simp only [remaining] at *
  exact Nat.le_trans (Nat.succ_le_succ less) lowers

/-- What every step preserves is preserved until all tasks wait. -/
theorem steps_keeps {P : Server → Prop}
    (kept : ∀ s run es, P s → s.run.step = some (run, es) → P (s.stepped run es)) (hp : P s)
    (n : Nat) : P (s.steps n).1 := by
  induction n generalizing s with
  | zero => exact hp
  | succ n ih =>
    unfold steps
    split
    · exact hp
    · rename_i run es hs
      exact ih (kept s run es hp hs)

/-- With as many steps as remain to be done the server comes to rest. -/
theorem Tidy.steps_rest (h : s.Tidy) {n : Nat} (enough : s.remaining ≤ n) :
    (s.steps n).1.run.step = none := by
  induction n generalizing s with
  | zero =>
    cases hs : s.run.step with
    | none => exact hs
    | some r =>
      have := (h.step hs).2
      omega
  | succ n ih =>
    unfold steps
    split
    · assumption
    · rename_i run es hs
      obtain ⟨tidy, less⟩ := h.step hs
      exact ih tidy (Nat.le_of_succ_le_succ (Nat.le_trans less enough))

/-- No task can go on and no document is being linted. -/
structure Still (s : Server) : Prop where
  ready : s.run.ready = []
  linting : s.run.linting = []

theorem still_of_step (hs : s.run.step = none) : s.Still := by
  unfold Session.Run.step at hs
  split at hs
  · cases hs
  · cases hs
  · exact ⟨‹_›, ‹_›⟩

/-- A server at rest takes no steps. -/
theorem Still.steps (h : s.Still) (n : Nat) : s.steps n = (s, []) := by
  cases n with
  | zero => rfl
  | succ n => simp [Server.steps, Session.Run.step, h.ready, h.linting]

/-- The bound for the steps suffices: the server always comes to rest. -/
theorem Tidy.settle (h : s.Tidy) : s.settle.1.Tidy ∧ s.settle.1.Still :=
  ⟨steps_keeps (fun _ _ _ tidy hs => (tidy.step hs).1) h _,
    still_of_step (h.steps_rest (Session.Run.remaining_le_bound h.session s.extra_le))⟩

end Considerate.Server
