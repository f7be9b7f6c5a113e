import Considerate.Proofs.Server.History
import Considerate.Proofs.Session.Closed

namespace Considerate

namespace Session

variable {s t : Session} {u : Url} {a : Action} {es : List Effect}

theorem Step.document (h : Step s a t es) (inner : a.isInner = true)
    (closing : ∀ k, s.tasks.get? k ≠ some (.fresh (.close u))) :
    t.documents.get? u = s.documents.get? u := by
  cases h with
  | rest | unheard | idle => rfl
  | answer | linted => rw [documents_put]
  | advance id st found ready t next moves =>
    rw [documents_put]
    rcases moves.registry with ⟨same, _⟩ | ⟨v, rfl, rfl⟩
    · rw [same]
    · refine Keyed.get?_erase_ne _ ?_
      rintro rfl
      exact closing id found
  | call | known | drop | gone | openDocument | changeText | invalidate | reload => cases inner

theorem documents_drop (s : Session) (id : Nat) (u : Url) :
    (s.act (.drop id)).1.documents.get? u = s.documents.get? u := by
  simp only [act]
  split
  · rfl
  · rename_i st _
    unfold letGo
    cases st.cell? <;> cases st.pass? <;> rfl

end Session

namespace Server

variable {s t : Server} {u : Url}

/-- What becomes of a server while nothing is said about a document. -/
structure Spared (u : Url) (s t : Server) : Prop where
  tidy : t.Tidy
  now : t.now = s.now
  document : t.run.session.documents.get? u = s.run.session.documents.get? u
  closing : ∀ k, t.run.session.tasks.get? k ≠ some (.fresh (.close u))
  purposes : ∀ k v, t.purposes.get? k = some (.changed u v) →
    ∃ l, s.purposes.get? l = some (.changed u v)
  delays : ∃ new, t.delays = s.delays ++ new ∧ ∀ d ∈ new, d.url = u →
    ∃ l, s.purposes.get? l = some (.changed u d.version)

theorem Spared.refl (tidy : s.Tidy) (still : s.Still) : Spared u s s where
  tidy := tidy
  now := rfl
  document := rfl
  closing k there := by
    have ready := tidy.prompt k _ there
    rw [still.ready] at ready
    cases ready
  purposes k v h := ⟨k, h⟩
  delays := ⟨[], by simp⟩

theorem Spared.launch (h : Spared u s t) {job : Job} {purpose : Purpose}
    (light : job.ahead ≤ Job.worth) (open_ : job ≠ .close u)
    (other : ∀ v, purpose ≠ .changed u v) : Spared u s (t.launch job purpose) := by
  have tidy := h.tidy.launch light purpose
  rw [launch_of_new (h.tidy.tasks _ (Nat.lt_succ_self _))] at tidy ⊢
  refine ⟨tidy, h.now, h.document, ?_, ?_, h.delays⟩
  · intro k there
    rcases Session.tasks_put_cases there with ⟨_, he⟩ | ⟨_, there⟩
    · cases he
      exact open_ rfl
    · exact h.closing k there
  · intro k v there
    by_cases hk : k = t.lastTask + 1
    · subst hk
      rw [Keyed.get?_set_self, Option.some.injEq] at there
      exact (other v there).elim
    · rw [Keyed.get?_set_ne _ hk] at there
      exact h.purposes k v there

theorem Spared.lintLater (h : Spared u s t) (v : Url) : Spared u s (t.lintLater v) :=
  h.launch (Nat.le_refl _) (by simp) (by simp)

theorem Spared.erase (h : Spared u s t) (id : Nat) :
    Spared u s { t with purposes := t.purposes.erase id } := by
  refine ⟨h.tidy.erase id, h.now, h.document, h.closing, ?_, h.delays⟩
  intro k v there
  by_cases hk : k = id
  · subst hk
    rw [Keyed.get?_erase_self] at there
    cases there
  · exact h.purposes k v (Keyed.get?_erase_ne _ hk ▸ there)

theorem Spared.ends {r : Server} {id : Nat} {v : Value} (h : Spared u s t) (ends : t.Ends id v r) :
    Spared u s r := by
  cases ends with
  | unknown => exact h
  | known purpose found r concludes =>
    have erased := h.erase id
    cases concludes with
    | plain => exact erased
    | lints w settings onSave => exact erased.lintLater w
    | delays w version settings onType =>
      obtain ⟨new, delays, sources⟩ := h.delays
      refine ⟨⟨erased.tidy.session, erased.tidy.prompt, erased.tidy.tasks, erased.tidy.purposes⟩,
        erased.now, erased.document, erased.closing, erased.purposes, ?_⟩
      refine ⟨new ++ [Delay.starting t.now w version], by simp [delays], ?_⟩
      intro d hd hu
      rcases List.mem_append.mp hd with hd | hd
      · exact sources d hd hu
      · obtain rfl := List.mem_singleton.mp hd
        cases hu
        exact h.purposes id version found

theorem Spared.step {run : Session.Run} {es : List Session.Effect} (h : Spared u s t)
    (hs : t.run.step = some (run, es)) : Spared u s (t.stepped run es) := by
  have goes := Session.Run.goes hs
  have kept : run.session.documents.get? u = t.run.session.documents.get? u ∧
      ∀ k, run.session.tasks.get? k ≠ some (.fresh (.close u)) := by
    refine goes.keeps (P := fun r => r.documents.get? u = t.run.session.documents.get? u ∧
      ∀ k, r.tasks.get? k ≠ some (.fresh (.close u))) ?_ ⟨rfl, h.closing⟩
    rintro r a r' es step inner ⟨document, closing⟩
    refine ⟨(step.document inner closing).trans document, fun k there => ?_⟩
    exact closing k (step.fresh (Session.Action.uncalled inner) there)
  have gone : Spared u s { t with run } :=
    ⟨h.tidy.goes goes, h.now, kept.1.trans h.document, kept.2, h.purposes, h.delays⟩
  rw [stepped, observeAll_fst]
  exact List.foldlRecOn _ _ gone fun r spared ended _ => spared.ends (r.ends ..)

theorem Spared.settle (h : Spared u s t) : Spared u s t.settle.1 :=
  steps_keeps (fun _ _ _ spared hs => spared.step hs) h _

/-- Something is done to the session that concerns neither the document nor tasks that start. -/
theorem Spared.act (h : Spared u s t) {a : Session.Action} (ks : List Nat)
    (woken : (t.run.session.act a).2 = ks.map Session.Effect.woken)
    (uncalled : ∀ id job, a ≠ .call id job)
    (document : (t.run.session.act a).1.documents.get? u = t.run.session.documents.get? u) :
    Spared u s (t.act a) := by
  have session : (t.act a).run.session = (t.run.session.act a).1 := by
    simp only [Server.act, Session.Run.act, woken, Session.Run.note_woken]
  refine ⟨h.tidy.act ks woken uncalled, h.now, ?_, ?_, h.purposes, h.delays⟩
  · rw [session, document, h.document]
  · intro k there
    rw [session] at there
    exact h.closing k ((Session.step_act ..).fresh uncalled there)

theorem Spared.obey (h : Spared u s t) {d : Deed} (light : d.IsLight) (other : ¬ d.IsAbout u) :
    Spared u s (t.obey d) := by
  cases d with
  | opens v d => exact h.act (a := .openDocument v d) [] rfl (by simp) (Keyed.get?_set_ne _ (Ne.symm other) _)
  | changes v text version =>
    refine h.act (a := .changeText v text version) [] rfl (by simp) ?_
    show ((t.run.session.changeText v text version).getD t.run.session).documents.get? u = _
    rcases Session.changeText_cases t.run.session v text version with he | ⟨d, he⟩ <;> rw [he]
    exact Keyed.get?_set_ne _ (Ne.symm other) _
  | invalidates => exact h.act (a := .invalidate none) [] rfl (by simp) rfl
  | reloads root =>
    refine h.act (a := .reload t.files root) [] rfl (by simp) ?_
    show (t.run.session.reload t.files root).documents.get? u = _
    rw [Session.reload_eq]
  | launches job purpose =>
    exact h.launch light (fun he => other (Or.inl he)) fun v he => other (Or.inr ⟨v, he⟩)
  | drops task =>
    have tidy := h.tidy.drop task
    have step := Session.step_act t.run.session (.drop task)
    obtain ⟨ks, dropped⟩ := t.obey_drops task
    rw [dropped] at tidy ⊢
    refine ⟨tidy, h.now, ?_, fun k there => h.closing k (step.fresh (by simp) there),
      (h.erase task).purposes, h.delays⟩
    exact (Session.documents_drop ..).trans h.document
  | enters root | becomes life | parts =>
    exact ⟨h.tidy.obey light, h.now, h.document, h.closing, h.purposes, h.delays⟩

/-- Whether something that happens says that a document has been opened, closed or changed. -/
def Event.IsAbout (u : Url) : Event → Prop
  | .received m => m.IsAbout u
  | _ => False

theorem Spared.answerHeld (h : Spared u s t) (n : Nat) (x : Answer) :
    Spared u s { t with run := t.run.answerHeld n x } := by
  rcases answerHeld_cases t.run n x with ⟨editor, held, he⟩ | ⟨held, id, he⟩ <;> rw [he]
  · exact ⟨⟨h.tidy.session, h.tidy.prompt, h.tidy.tasks, h.tidy.purposes⟩, h.now, h.document,
      h.closing, h.purposes, h.delays⟩
  · have held : Spared u s { t with run := { t.run with held } } :=
      ⟨⟨h.tidy.session, h.tidy.prompt, h.tidy.tasks, h.tidy.purposes⟩, h.now, h.document,
        h.closing, h.purposes, h.delays⟩
    obtain ⟨ks, woken⟩ := woken_answer t.run.session id x
    refine held.act ks woken (by simp) ?_
    exact (Session.step_act ..).document rfl held.closing

/-- What happens while no time passes and nothing is said about a document spares it. -/
theorem Spared.react (h : Spared u s t) {e : Event} (other : ¬ e.IsAbout u)
    (now : ∀ ms, e ≠ .passed ms) : Spared u s (t.react e) := by
  cases e with
  | received m =>
    simp only [Server.react, receive]
    split
    · exact h
    · have accepted : Spared u s (t.accept m).1 :=
        (t.does_accept m).keeps (fun s d allowed spared =>
          spared.obey allowed.1 fun about => other (allowed.2 u about)) h
      exact accepted.settle
  | replied place result =>
    simp only [Server.react, reply]
    split
    · exact h
    · exact (h.answerHeld ..).settle
  | answers kind held result =>
    exact ⟨⟨h.tidy.session, h.tidy.prompt, h.tidy.tasks, h.tidy.purposes⟩, h.now, h.document,
      h.closing, h.purposes, h.delays⟩
  | written files =>
    exact ⟨⟨h.tidy.session, h.tidy.prompt, h.tidy.tasks, h.tidy.purposes⟩, h.now, h.document,
      h.closing, h.purposes, h.delays⟩
  | passed ms => exact (now ms rfl).elim

end Server

end Considerate
