import Considerate.Proofs.Session.Spared

namespace Considerate

/-- Whether a job may only lint or close the document, as far as it changes something of it. -/
def Job.Regular (u : Url) : Job → Prop
  | .quickFix v _ _ | .change v _ => v ≠ u
  | .validate _ | .close _ | .settings _ | .read _ _ => True

/-- The stages of a task that closes the document, as long as something is left to be done. -/
inductive Stage.Closes (u : Url) : Stage → Prop
  | begin : Closes u (.fresh (.close u))
  | purge : Closes u (.store (.change u .purge (.finish .nothing)))

namespace Session

/-- Whether an action neither drops a task nor calls for one that changes more of the document than
to lint or to close it. -/
def Action.Regular (u : Url) : Action → Prop
  | .call _ job => job.Regular u
  | .drop _ => False
  | _ => True

variable {s t : Session} {id : Nat} {st next : Stage} {u : Url}

theorem Action.Spares.regular {a : Action} (h : a.Spares u) : a.Regular u := by
  cases a with
  | call k job => cases job <;> first | exact h | trivial
  | drop k => exact h
  | _ => trivial

theorem Moves.closes (h : Moves s id st t next) (hs : st.Closes u) (hn : next.subject? = some u) :
    next.Closes u := by
  cases hs with
  | begin =>
    cases h
    exact .purge
  | purge =>
    cases h with
    | queue a busy => exact .purge
    | publish v c plan turn store ds changed => cases hn
    | keep v c plan turn store changed t next resumes => cases congrArg Prod.snd changed

def LintsOrCloses (u : Url) (s : Session) : Prop :=
  ∀ k st, s.tasks.get? k = some st → st.subject? = some u → st.Validates u ∨ st.Closes u

theorem LintsOrCloses.snoc {as : List Action} {a : Action} (h : LintsOrCloses u (after as))
    (regular : a.Regular u) : LintsOrCloses u (after (as ++ [a])) := by
  refine about_snoc (P := fun _ st => st.Validates u ∨ st.Closes u) h ?_ ?_ ?_ ?_
  · rintro k job rfl hu
    have hj : job.Regular u := regular
    cases job with
    | validate r => exact Or.inl (Or.inl ⟨r, rfl, Option.some.inj hu⟩)
    | close v =>
      cases hu
      exact Or.inr .begin
    | quickFix v code value | change v c => exact (hj (Option.some.inj hu)).elim
    | settings v | read v parts => cases hu
  · intro k old t st moves hu hp
    rcases hp with hv | hc
    · rcases moves.trades.validates hv with hv | ⟨es, rfl⟩
      · exact Or.inl hv
      · cases hu
    · exact Or.inr (moves.closes hc hu)
  · intro k c plan x hp
    rcases hp with hv | hc
    · exact Or.inl (validates_back x hv)
    · cases hc
  · intro k p settings hp
    rcases hp with (⟨r, hr, _⟩ | hv) | hc
    · cases hr
    · exact Or.inl (Or.inr hv)
    · cases hc

theorem lintsOrCloses_after (as : List Action) (h : ∀ a ∈ as, a.Regular u) :
    LintsOrCloses u (after as) := by
  induction as using List.reverseRecOn with
  | nil =>
    intro k st hk
    cases hk
  | append_singleton as a ih =>
    exact (ih fun b hb => h b (List.mem_append_left _ hb)).snoc (h a (by simp))

/-- Requests for the document wait only while it is being linted. -/
def Attended (u : Url) (s : Session) : Prop :=
  s.schedule.queuedFor u ≠ [] → s.schedule.isPending u = true

theorem Attended.congr (h : Attended u s) (hs : t.schedule = s.schedule) : Attended u t := by
  unfold Attended
  rw [hs]
  exact h

theorem Attended.of_eq (h : Attended u s)
    (hp : t.schedule.pending.get? u = s.schedule.pending.get? u)
    (hq : t.schedule.queuedFor u = s.schedule.queuedFor u) : Attended u t := by
  unfold Attended
  rw [hq, Schedule.isPending_congr hp]
  exact h

theorem Attended.move (h : Attended u s) (moves : Trades s st t next) : Attended u t := by
  cases moves with
  | nothing begun same pass => exact h.congr same
  | stale p here old same es ended => exact h.congr same
  | wait r here busy queued ended =>
    by_cases hr : r.url = u
    · intro _
      rw [queued, ← hr]
      exact busy
    · refine h.of_eq (by rw [queued]; rfl) ?_
      rw [queued, Schedule.queuedFor_enqueue, if_neg (fun hu => hr hu.1), List.append_nil]
  | start r here idle claimed v documents begins =>
    by_cases hr : r.url = u
    · intro _
      rw [claimed, ← hr]
      exact Schedule.isPending_iff.mpr ⟨_, Schedule.pending_claim_self ..⟩
    · refine h.of_eq ?_ (by rw [claimed, Schedule.queuedFor_claim])
      rw [claimed, Schedule.pending_claim_ne _ (Ne.symm hr)]
  | close v here cancelled holding =>
    by_cases hv : u = v
    · intro hq
      rw [cancelled, hv, Schedule.queuedFor_cancel_self] at hq
      exact (hq rfl).elim
    · refine h.of_eq ?_ ?_
      · rw [cancelled, Schedule.pending_cancel_ne _ hv]
      · rw [cancelled, Schedule.queuedFor_cancel_ne _ hv]
  | free p here owner empty freed es ended =>
    by_cases hu : p.url = u
    · intro hq
      rw [freed] at hq
      exact (hq (hu ▸ empty)).elim
    · refine h.of_eq ?_ (by rw [freed]; rfl)
      rw [freed]
      exact Keyed.get?_erase_ne _ (Ne.symm hu)
  | replay p here owner r handed v documents begins =>
    by_cases hu : p.url = u
    · intro _
      exact Schedule.isPending_iff.mpr ⟨_, hu ▸ handed.slot⟩
    · exact h.of_eq (handed.others u (Ne.symm hu)) (handed.others_wait u (Ne.symm hu))

theorem Attended.snoc {as : List Action} {a : Action} (h : Attended u (after as))
    (kept : ∀ k, a ≠ .drop k) : Attended u (after (as ++ [a])) := by
  rw [after_snoc]
  have hs := step_act (after as) a
  generalize ((after as).act a).1 = t, ((after as).act a).2 = es at *
  cases hs with
  | known | rest | unheard | idle | gone | openDocument | invalidate => exact h
  | call | answer | linted => exact h.congr (schedule_put ..)
  | advance id st found ready t next moves => exact (h.move moves.trades).congr (schedule_put ..)
  | drop id st found => exact (kept id rfl).elim
  | changeText v text version =>
    rcases changeText_cases (after as) v text version with he | ⟨d, he⟩ <;> rw [he] <;> exact h
  | reload files root =>
    rw [reload_eq]
    exact h

/-- As long as no task is dropped, requests are attended to. -/
theorem attended_after (u : Url) (as : List Action) (h : ∀ k, .drop k ∉ as) :
    Attended u (after as) := by
  induction as using List.reverseRecOn with
  | nil => exact fun hq => (hq rfl).elim
  | append_singleton as a ih =>
    refine (ih fun k hk => h k (List.mem_append_left _ hk)).snoc ?_
    rintro k rfl
    exact h k (by simp)

theorem not_dropped_of_regular {as : List Action} (h : ∀ a ∈ as, a.Regular u) (k : Nat) :
    .drop k ∉ as := fun hk => h _ hk

end Session

end Considerate
