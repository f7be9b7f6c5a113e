import Considerate.Proofs.Session.History
import Considerate.Proofs.Store

namespace Considerate.Session

/-- The stages of a pass, in the order in which it can come to them. -/
inductive Course (p : Pass) : Stage → Prop
  | clear (plain : p.request.options.format = false) :
      Course p (.store (.change p.url .clear (.announce p)))
  | clearing : Course p (.calling (.publish p.url []) (.shown (.announce p)))
  | cleared (x : Answer) : Course p (.back (.shown (.announce p)) x)
  | announcing :
      Course p (.calling (.status (p.status (Phase.ofOptions p.request.options)))
        (.told (.configure p)))
  | announced (x : Answer) : Course p (.back (.told (.configure p)) x)
  | wanting (n : Nat) : Course p (.cell p.url n (.pass p))
  | asking (n : Nat) : Course p (.calling (.configuration p.url) (.configured n (.pass p)))
  | asked (n : Nat) (x : Answer) : Course p (.back (.configured n (.pass p)) x)
  | linting (settings : Settings) : Course p (.linting p settings)
  | linted (settings : Settings) : Course p (.linted p settings)
  | replace (r : Report) :
      Course p (.store (.change p.url (.replace r.diagnostics r.fixes) (.conclude p r)))
  | replacing (r : Report) :
      Course p (.calling (.publish p.url r.diagnostics) (.shown (.conclude p r)))
  | replaced (r : Report) (x : Answer) : Course p (.back (.shown (.conclude p r)) x)
  | purge : Course p (.store (.change p.url .purge (.close p [])))
  | purging : Course p (.calling (.publish p.url []) (.shown (.close p [])))
  | purged (x : Answer) : Course p (.back (.shown (.close p [])) x)
  | record (a : Artifact) : Course p (.store (.change p.url (.record a) (.close p [])))
  | closing (phase : Phase) (es : List Edit) :
      Course p (.calling (.status (p.status phase)) (.told (.release p es)))
  | closed (es : List Edit) (x : Answer) : Course p (.back (.told (.release p es)) x)

def OnCourse (st : Stage) : Prop := ∀ p, st.pass? = some p → Course p st

theorem Begins.onCourse {s t : Session} {r : Request} {ticket : Nat} {st : Stage}
    (h : Begins s r ticket t st) : OnCourse st := by
  intro p hp
  cases h with
  | clear plain opened =>
    cases hp
    exact .clear plain
  | announce silent =>
    cases hp
    exact .announcing

theorem Resumes.onCourse {s t : Session} {next : Plan} {st : Stage} (h : Resumes s next t st) :
    OnCourse st := by
  intro p hp
  cases h with
  | replay q es owner next schedule handed t st begins => exact begins.onCourse p hp
  | stale | free | finish => cases hp
  | announce q =>
    cases hp
    exact .announcing
  | absent | gone | format | close =>
    cases hp
    exact .closing _ _
  | want =>
    cases hp
    exact .wanting _
  | purge =>
    cases hp
    exact .purge
  | record =>
    cases hp
    exact .record _

theorem handOver_onCourse (settings : Settings) (reader : Reader) :
    OnCourse (handOver settings reader) := by
  intro p hp
  cases reader with
  | pass q =>
    cases hp
    exact .linting settings
  | caller => cases hp

variable {s t : Session} {id : Nat} {st next : Stage}

theorem Moves.onCourse (h : Moves s id st t next) (hs : OnCourse st) : OnCourse next := by
  cases h with
  | start r idle t next begins => exact begins.onCourse
  | keep u c plan turn store changed t next resumes => exact resumes.onCourse
  | shown plan x t next resumes => exact resumes.onCourse
  | told plan x t next resumes => exact resumes.onCourse
  | configured n reader x => exact handOver_onCourse _ _
  | filled u n reader settings value => exact handOver_onCourse _ _
  | queue | queueForCell => exact hs
  | publish u c plan turn store ds changed =>
    intro p hp
    have hc := congrArg Prod.snd changed
    cases hs p hp with
    | clear plain =>
      rw [Store.shown_clear] at hc
      cases hc
      exact .clearing
    | replace r =>
      rw [Store.shown_replace] at hc
      cases hc
      exact .replacing r
    | purge =>
      rw [Store.shown_purge] at hc
      cases hc
      exact .purging
    | record a =>
      rw [Store.shown_record] at hc
      cases hc
  | ask u n reader empty turn =>
    intro p hp
    cases reader with
    | pass q =>
      cases hp
      cases hs p rfl
      exact .asking n
    | caller => cases hp
  | fail | late =>
    intro p hp
    cases hp
    exact .closing _ _
  | report p settings r =>
    intro p hp
    cases hp
    exact .replace r
  | _ =>
    intro p hp
    cases hp

/-- Where a task at a stage comes from: it was there before, or it has come there from another.
What is to be seen of it then is among `es`. -/
inductive Arises (s r : Session) (es : List Effect) (k : Nat) (st : Stage) : Action → Prop
  | stays (a : Action) (found : s.tasks.get? k = some st)
      (stuck : a = .advance k → s.canGoOn k st = false)
      (silent : ∀ x c next, a = .answer k x → st ≠ .calling c next) (kept : a ≠ .drop k) :
      Arises s r es k st a
  | called (job : Job) (fresh : st = .fresh job) : Arises s r es k st (.call k job)
  | moved (old : Stage) (t : Session) (found : s.tasks.get? k = some old)
      (ready : s.canGoOn k old = true) (moves : Moves s k old t st) (result : r = t.put k st)
      (sight : ∀ e ∈ seen k st, e ∈ es) :
      Arises s r es k st (.advance k)
  | answered (c : Call) (next : Return) (x : Answer)
      (found : s.tasks.get? k = some (.calling c next)) (back : st = .back next x) :
      Arises s r es k st (.answer k x)
  | linted (p : Pass) (settings : Settings) (found : s.tasks.get? k = some (.linting p settings))
      (ended : st = .linted p settings) :
      Arises s r es k st (.linted k)

theorem Moves.tasks (h : Moves s id st t next) : t.tasks = s.tasks := by
  cases h with
  | start r idle t next begins => exact begins.tasks
  | keep u c plan turn store changed t next resumes => exact resumes.tasks
  | shown plan x t next resumes => exact resumes.tasks
  | told plan x t next resumes => exact resumes.tasks
  | _ => rfl

theorem tasks_letGo (s : Session) (id : Nat) (st : Stage) : (s.letGo id st).tasks = s.tasks := by
  unfold letGo
  cases st.cell? <;> cases st.pass? <;> rfl

theorem Step.arises {a : Action} {es : List Effect} (h : Step s a t es) {k : Nat}
    (ht : t.tasks.get? k = some st) : Arises s t es k st a := by
  cases h with
  | known | idle | openDocument | invalidate => exact .stays _ ht (by simp) (by simp) (by simp)
  | rest id stuck =>
    refine .stays _ ht ?_ (by simp) (by simp)
    rintro ⟨⟩
    exact stuck st ht
  | unheard id x silent =>
    refine .stays _ ht (by simp) ?_ (by simp)
    rintro y c plan ⟨⟩ rfl
    exact silent c plan ht
  | gone id missing =>
    refine .stays _ ht (by simp) (by simp) ?_
    rintro ⟨⟩
    rw [missing] at ht
    cases ht
  | call id job new =>
    rcases tasks_put_cases ht with ⟨rfl, rfl⟩ | ⟨_, hs⟩
    · exact .called job rfl
    · exact .stays _ hs (by simp) (by simp) (by simp)
  | advance id old found ready t next moves =>
    rcases tasks_put_cases ht with ⟨rfl, rfl⟩ | ⟨hk, hs⟩
    · exact .moved old t found ready moves rfl fun e he => List.mem_append_right _ he
    · rw [moves.tasks] at hs
      exact .stays _ hs (by simp [Ne.symm hk]) (by simp) (by simp)
  | answer id x c next found =>
    rcases tasks_put_cases ht with ⟨rfl, rfl⟩ | ⟨hk, hs⟩
    · exact .answered c next x found rfl
    · exact .stays _ hs (by simp) (by simp [Ne.symm hk]) (by simp)
  | linted id p settings found =>
    rcases tasks_put_cases ht with ⟨rfl, rfl⟩ | ⟨_, hs⟩
    · exact .linted p settings found rfl
    · exact .stays _ hs (by simp) (by simp) (by simp)
  | drop id old found =>
    rw [tasks_letGo] at ht
    by_cases hk : k = id
    · subst hk
      rw [Keyed.get?_erase_self] at ht
      cases ht
    · rw [Keyed.get?_erase_ne _ hk] at ht
      exact .stays _ ht (by simp) (by simp) (by simp [Ne.symm hk])
  | changeText u text version =>
    rcases changeText_cases s u text version with he | ⟨d, he⟩ <;> rw [he] at ht <;>
      exact .stays _ ht (by simp) (by simp) (by simp)
  | reload files root =>
    rw [reload_eq] at ht
    exact .stays _ ht (by simp) (by simp) (by simp)

theorem Course.back {p : Pass} {c : Call} {plan : Return} (h : Course p (.calling c plan))
    (x : Answer) : Course p (.back plan x) := by
  cases h with
  | clearing => exact .cleared x
  | announcing => exact .announced x
  | asking n => exact .asked n x
  | replacing r => exact .replaced r x
  | purging => exact .purged x
  | closing phase es => exact .closed es x

theorem pass?_back (c : Call) (plan : Return) (x : Answer) :
    (Stage.back plan x).pass? = (Stage.calling c plan).pass? := by
  cases plan with
  | configured n reader => cases reader <;> rfl
  | _ => rfl

/-- In every state that a session reaches, each pass is on its course. -/
theorem onCourse_after (as : List Action) {k : Nat} (hk : (after as).tasks.get? k = some st) :
    OnCourse st := by
  induction as using List.reverseRecOn generalizing k st with
  | nil => cases hk
  | append_singleton as a ih =>
    rw [after_snoc] at hk
    cases (step_act (after as) a).arises hk with
    | stays a found => exact ih found
    | called job fresh =>
      intro p hp
      subst fresh
      cases hp
    | moved old t found ready moves result sight => exact moves.onCourse (ih found)
    | answered c plan x found back =>
      subst back
      intro p hp
      rw [pass?_back c] at hp
      exact (ih found p hp).back x
    | linted q settings found ended =>
      subst ended
      intro p hp
      cases hp
      exact .linted settings

theorem Begins.ne_fresh {r : Request} {ticket : Nat} {job : Job} (h : Begins s r ticket t st) :
    st ≠ .fresh job := by
  cases h <;> simp [tell]

theorem Resumes.ne_fresh {plan : Plan} {job : Job} (h : Resumes s plan t next) :
    next ≠ .fresh job := by
  cases h with
  | replay p es owner r schedule handed t next begins => exact begins.ne_fresh
  | _ => simp [tell]

/-- No task starts anew by itself. -/
theorem Moves.ne_fresh {job : Job} (h : Moves s id st t next) : next ≠ .fresh job := by
  cases h with
  | start r idle t next begins => exact begins.ne_fresh
  | keep v c plan turn store changed t next resumes => exact resumes.ne_fresh
  | shown plan x t next resumes => exact resumes.ne_fresh
  | told plan x t next resumes => exact resumes.ne_fresh
  | configured n reader x => cases reader <;> simp [handOver]
  | filled v n reader settings value => cases reader <;> simp [handOver]
  | _ => simp [tell]

theorem not_fresh_snoc {as : List Action} {a : Action} {job : Job}
    (h : ∀ l, (after as).tasks.get? l ≠ some (.fresh job))
    (uncalled : ∀ l, a ≠ .call l job) (k : Nat) :
    (after (as ++ [a])).tasks.get? k ≠ some (.fresh job) := by
  intro hk
  rw [after_snoc] at hk
  cases (step_act (after as) a).arises hk with
  | stays a found => exact h k found
  | called job fresh =>
    cases fresh
    exact uncalled k rfl
  | moved old t found ready moves result sight => exact moves.ne_fresh rfl
  | answered c plan x found back => cases back
  | linted p settings found ended => cases ended

theorem not_fresh_after {as : List Action} {job : Job} (uncalled : ∀ l, .call l job ∉ as) (k : Nat) :
    (after as).tasks.get? k ≠ some (.fresh job) := by
  induction as using List.reverseRecOn generalizing k with
  | nil => nofun
  | append_singleton as a ih =>
    refine not_fresh_snoc (ih fun l hl => uncalled l (List.mem_append_left _ hl)) ?_ k
    rintro l rfl
    exact uncalled l (by simp)

end Considerate.Session
