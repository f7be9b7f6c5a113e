import Considerate.Proofs.Session.Tickets

namespace Considerate

/-- Whether a job may only lint the document, as far as it changes something of it. -/
def Job.Spares (u : Url) : Job → Prop
  | .close v | .quickFix v _ _ | .change v _ => v ≠ u
  | .validate _ | .settings _ | .read _ _ => True

/-- The stage of a task that is called to lint the document. -/
def Stage.Validates (u : Url) (st : Stage) : Prop :=
  (∃ r, st = .fresh (.validate r) ∧ r.url = u) ∨ ∃ p, st.pass? = some p ∧ p.url = u

namespace Session

/-- Whether an action neither drops a task nor calls for one that changes more of the document
than to lint it. -/
def Action.Spares (u : Url) : Action → Prop
  | .call _ job => job.Spares u
  | .drop _ => False
  | _ => True

variable {s t : Session} {id : Nat} {st next : Stage} {u : Url}

theorem Begins.validates {r : Request} {ticket : Nat} (h : Begins s r ticket t st) :
    st.Validates r.url := by
  cases h <;> exact Or.inr ⟨_, rfl, rfl⟩

theorem ne_close_of_validates (h : st.Validates u) : st ≠ .fresh (.close u) := by
  rintro rfl
  rcases h with ⟨r, hr, _⟩ | ⟨p, hp, _⟩
  · cases hr
  · cases hp

theorem validates_of_holding {m : Nat} (h : st.holding? = some (u, m)) : st.Validates u := by
  obtain ⟨p, hp, he⟩ := Option.map_eq_some_iff.mp h
  simp only [Prod.mk.injEq] at he
  exact Or.inr ⟨p, hp, he.1⟩

/-- A task that lints a document does so until it is done. -/
theorem Trades.validates (h : Trades s st t next) (hs : st.Validates u) :
    next.Validates u ∨ ∃ es, next = .done (.edits es) := by
  rcases hs with ⟨r, rfl, rfl⟩ | ⟨p, hp, rfl⟩
  · cases h with
    | nothing begun same pass => exact (begun r rfl).elim
    | wait q here busy queued ended => exact Or.inr ⟨[], ended⟩
    | start q here idle claimed v documents begins =>
      cases here
      exact Or.inl begins.validates
    | close v here cancelled holding => cases here
    | stale p here old same es ended => exact Or.inr ⟨es, ended⟩
    | free p here owner empty freed es ended => exact Or.inr ⟨es, ended⟩
    | replay p here owner q handed v documents begins => cases here
  · cases h with
    | nothing begun same pass =>
      left
      refine validates_of_holding (m := p.ticket) ?_
      rw [holding?_of_unnumbered pass, Stage.holding?, hp]
      rfl
    | wait q here busy queued ended => exact Or.inr ⟨[], ended⟩
    | start q here idle claimed v documents begins =>
      rw [here] at hp
      cases hp
    | close v here cancelled holding =>
      rw [here] at hp
      cases hp
    | stale q here old same es ended => exact Or.inr ⟨es, ended⟩
    | free q here owner empty freed es ended => exact Or.inr ⟨es, ended⟩
    | replay q here owner r handed v documents begins =>
      rw [here, Option.some.injEq] at hp
      subst hp
      exact Or.inl (handed.url ▸ begins.validates)

theorem validates_back {c : Call} {plan : Return} (x : Answer)
    (h : (Stage.calling c plan).Validates u) : (Stage.back plan x).Validates u := by
  rcases h with ⟨r, hr, _⟩ | ⟨p, hp, hu⟩
  · cases hr
  · exact Or.inr ⟨p, (pass?_back c plan x).trans hp, hu⟩

theorem subject?_back (c : Call) (plan : Return) (x : Answer) :
    (Stage.back plan x).subject? = (Stage.calling c plan).subject? := by
  cases plan with
  | configured n reader => cases reader <;> rfl
  | _ => rfl

/-- What holds of the tasks that are about the document still holds of them when an action has been
done, if it does of one that is called and of one that goes on. -/
theorem about_snoc {P : Nat → Stage → Prop} {as : List Action} {a : Action}
    (h : ∀ k st, (after as).tasks.get? k = some st → st.subject? = some u → P k st)
    (called : ∀ k job, a = .call k job → job.subject? = some u → P k (.fresh job))
    (moved : ∀ k st t next, Moves (after as) k st t next → next.subject? = some u → P k st → P k next)
    (answered : ∀ k c plan x, P k (.calling c plan) → P k (.back plan x))
    (linted : ∀ k p settings, P k (.linting p settings) → P k (.linted p settings)) :
    ∀ k st, (after (as ++ [a])).tasks.get? k = some st → st.subject? = some u → P k st := by
  intro k st there hu
  rw [after_snoc] at there
  cases (step_act (after as) a).arises there with
  | stays a found => exact h k st found hu
  | called job fresh =>
    subst fresh
    exact called k job rfl hu
  | moved old t found ready moves result sight =>
    by_cases ho : old.subject? = some u
    · exact moved k old t st moves hu (h k old found ho)
    · exact ((moves.keeps (onCourse_after as found) ho).2 hu).elim
  | answered c plan x found back =>
    subst back
    rw [subject?_back c] at hu
    exact answered k c plan x (h k _ found hu)
  | linted p settings found ended =>
    subst ended
    exact linted k p settings (h k _ found hu)

end Session

end Considerate
