import Considerate.Proofs.Findings
import Considerate.Proofs.Session.QuickFix

namespace Considerate

namespace Session

variable {s t : Session} {id k : Nat} {st next : Stage} {u : Url} {as : List Action} {a : Action}

/-- The report that a pass is about to store, or has stored, is what came of linting its document. -/
def Reported (st : Stage) : Prop :=
  ∀ p r, st.pass? = some p → st.report? = some r →
    ∃ settings, lint p.url p.document settings = .ok r

theorem Moves.reported (h : Moves s id st t next) (hs : Reported st) : Reported next := by
  intro p r hp hr
  rcases h.report? hr with ho | ⟨q, settings, rfl, passed⟩
  · -- The report was there before, and so was the pass.
    cases h with
    | queue a busy => exact hs p r hp ho
    | publish v c plan turn store ds changed =>
      exact hs p r hp ho
    | start r idle t next begins =>
      rw [begins.empty.2.1] at hr
      cases hr
    | keep v c plan turn store changed t next resumes | shown plan x t next resumes
    | told plan x t next resumes =>
      rw [resumes.empty.2] at hr
      cases hr
    | configured n reader x => cases reader <;> cases hr
    | filled v n reader settings value => cases reader <;> cases hr
    | report => cases ho
    | _ => cases hr
  · cases h with
    | report p settings r passed opened =>
      cases hp
      cases hr
      exact ⟨settings, passed⟩
    | _ => cases hr

theorem reported_after (as : List Action) (found : (after as).tasks.get? k = some st) :
    Reported st := by
  induction as using List.reverseRecOn generalizing k st with
  | nil => cases found
  | append_singleton as a ih =>
    rw [after_snoc] at found
    cases (step_act (after as) a).arises found with
    | stays a there => exact ih there
    | called job fresh =>
      intro p r hp
      subst fresh
      cases hp
    | moved old t there ready moves result sight => exact moves.reported (ih there)
    | answered c plan x there back =>
      intro p r hp hr
      subst back
      rw [pass?_back c] at hp
      refine ih there p r hp ?_
      cases plan with
      | shown plan => cases plan <;> exact hr
      | _ => cases hr
    | linted q settings there ended =>
      intro p r hp hr
      subst ended
      cases hr

/-- The changes that tasks make by themselves in the store, and how they go on. -/
inductive Meant (u : Url) : Change → Plan → Prop
  | clear (p : Pass) : Meant u .clear (.announce p)
  | replace (p : Pass) (r : Report) (settings : Settings)
      (passed : lint p.url p.document settings = .ok r) :
      Meant u (.replace r.diagnostics r.fixes) (.conclude p r)
  | remove (d : Diagnostic) : Meant u (.remove [d] false none) (.finish (.applied true))
  | purge (plan : Plan) : Meant u .purge plan
  | record (p : Pass) (r : Report) (settings : Settings) (about : p.url = u)
      (plain : p.request.options.format = false)
      (passed : lint p.url p.document settings = .ok r) :
      Meant u (.record r.artifact) (.close p [])

/-- A task that is at the store for a change of the document means one of its own. -/
def MeansOwn (u : Url) (st : Stage) : Prop :=
  ∀ c plan, st = .store (.change u c plan) → Meant u c plan

theorem Begins.meansOwn {r : Request} {ticket : Nat} (h : Begins s r ticket t st) :
    MeansOwn u st := by
  rintro c plan rfl
  cases h with
  | clear plain opened => exact .clear _

theorem Resumes.meansOwn {plan : Plan} (h : Resumes s plan t st)
    (reported : ∀ p r, plan = .conclude p r → ∃ settings, lint p.url p.document settings = .ok r) :
    MeansOwn u st := by
  cases h with
  | replay p es owner r schedule handed t st begins => exact begins.meansOwn
  | purge p r closed =>
    intro c plan he
    cases he
    exact .purge _
  | record p r opened plain =>
    intro c plan he
    cases he
    obtain ⟨settings, passed⟩ := reported p r rfl
    exact .record p r settings rfl plain passed
  | _ =>
    intro c plan he
    cases he

theorem Moves.meansOwn (h : Moves s id st t next) (hs : MeansOwn u st) (reported : Reported st)
    (hc : OnCourse st) (direct : ∀ c, st ≠ .fresh (.change u c)) : MeansOwn u next := by
  cases h with
  | start r idle t next begins => exact begins.meansOwn
  | close v =>
    intro c plan he
    cases he
    exact .purge _
  | change v c =>
    intro c' plan he
    cases he
    exact (direct c rfl).elim
  | queue a busy => exact hs
  | keep v c plan turn store changed t next resumes =>
    refine resumes.meansOwn ?_
    rintro p r rfl
    exact reported p r rfl rfl
  | shown plan x t next resumes =>
    refine resumes.meansOwn ?_
    rintro p r rfl
    exact reported p r rfl rfl
  | told plan x t next resumes =>
    refine resumes.meansOwn ?_
    rintro p r rfl
    cases hc p rfl
  | configured n reader x =>
    intro c plan he
    cases reader <;> cases he
  | filled v n reader settings value =>
    intro c plan he
    cases reader <;> cases he
  | applied v d x made =>
    intro c plan he
    cases he
    exact .remove d
  | report p settings r passed opened =>
    intro c plan he
    cases he
    exact .replace p r settings passed
  | _ =>
    intro c plan he
    cases he

/-- When no task is called to make a change for the document, all changes are meant so. -/
theorem meansOwn_after (direct : ∀ l c, .call l (.change u c) ∉ as)
    (found : (after as).tasks.get? k = some st) : MeansOwn u st := by
  induction as using List.reverseRecOn generalizing k st with
  | nil => cases found
  | append_singleton as a ih =>
    have hm : ∀ l c, .call l (.change u c) ∉ as := fun l c hl =>
      direct l c (List.mem_append_left _ hl)
    rw [after_snoc] at found
    cases (step_act (after as) a).arises found with
    | stays a there => exact ih hm there
    | called job fresh =>
      intro c plan he
      subst fresh
      cases he
    | moved old t there ready moves result sight =>
      refine moves.meansOwn (ih hm there) (reported_after as there) (onCourse_after as there) ?_
      rintro c rfl
      exact not_fresh_after (fun l => hm l c) k there
    | answered c plan x there back =>
      intro c plan he
      subst back
      cases he
    | linted p settings there ended =>
      intro c plan he
      subst ended
      cases he

/-- The action is that of task `k`, which makes its change of the document in its turn in the store
and then goes on with the plan. -/
structure Makes (u : Url) (k : Nat) (c : Change) (plan : Plan) (s : Session) (a : Action) : Prop where
  goes : a = .advance k
  there : s.tasks.get? k = some (.store (.change u c plan))
  turn : (s.turns.request k).isHeldBy k = true

theorem Makes.store {c : Change} {plan : Plan} (h : Makes u k c plan (after as) a) :
    (after (as ++ [a])).store = ((after as).store.change u c).1 := by
  obtain ⟨rfl, there, turn⟩ := h
  have goes := goesOn_of_ready there (canGoOn_of_turn turn)
  rw [goes.store]
  rcases goes.moves.change_cases with ⟨busy, _⟩ | ⟨_, _, changed, _⟩ | ⟨_, _, _, ds, changed, _⟩
  · rw [turn] at busy
    cases busy
  · rw [changed]
  · rw [changed]

theorem same_or_makes (u : Url) (as : List Action) (a : Action) :
    (after (as ++ [a])).store.get? u = (after as).store.get? u ∨
      ∃ k c plan, Makes u k c plan (after as) a := by
  rcases same_or_changed u as a with same | ⟨k, c, plan, ha, there, turn, _⟩
  · exact Or.inl same
  · exact Or.inr ⟨k, c, plan, ha, there, turn⟩

/-- The artifact was recorded by a plain pass on the document, which had found it by linting, and
since then what is stored for the document has been neither cleared nor purged. -/
def RecordedSince (u : Url) (x : Artifact) (as : List Action) : Prop :=
  ∃ before rest k p r settings, as = before ++ .advance k :: rest ∧
    Makes u k (.record x) (.close p []) (after before) (.advance k) ∧
    p.url = u ∧ p.request.options.format = false ∧
    lint p.url p.document settings = .ok r ∧ x = r.artifact ∧
    ∀ earlier b later, rest = earlier ++ b :: later → ∀ l plan,
      ¬ Makes u l .clear plan (after (before ++ .advance k :: earlier)) b ∧
      ¬ Makes u l .purge plan (after (before ++ .advance k :: earlier)) b

theorem RecordedSince.snoc {x : Artifact} (h : RecordedSince u x as)
    (kept : ∀ l plan, ¬ Makes u l .clear plan (after as) a ∧ ¬ Makes u l .purge plan (after as) a) :
    RecordedSince u x (as ++ [a]) := by
  obtain ⟨before, rest, k, p, r, settings, rfl, makes, about, plain, passed, hx, since⟩ := h
  refine ⟨before, rest ++ [a], k, p, r, settings, by simp, makes, about, plain, passed, hx, ?_⟩
  intro earlier b later he
  rcases List.eq_nil_or_concat later with rfl | ⟨later, c, rfl⟩
  · obtain ⟨rfl, hb⟩ := List.append_inj' he rfl
    cases hb
    exact kept
  · rw [List.concat_eq_append, ← List.cons_append, ← List.append_assoc] at he
    exact since earlier b later (List.append_inj' he rfl).1

theorem Meant.wellFormed {c : Change} {plan : Plan} (h : Meant u c plan) (s : Store)
    (hs : (s.findings u).WellFormed) : ((s.change u c).1.findings u).WellFormed := by
  cases h with
  | clear p =>
    rw [s.findings_clear u]
    exact .empty
  | replace p r settings passed =>
    rw [s.findings_replace u]
    exact .of_lint passed _
  | remove d =>
    rw [Store.change, Store.findings_set_self]
    exact hs.remove [d] false
  | purge =>
    rw [s.findings_purge u]
    exact .empty
  | record p r settings about plain passed =>
    exact hs.congr (s.diagnostics_record u _) (s.fixes_record u _)

theorem Meant.artifact {c : Change} {plan : Plan} {x : Artifact} (h : Meant u c plan) (s : Store)
    (hx : ((s.change u c).1.findings u).artifact = some x) :
    (c ≠ .clear ∧ c ≠ .purge ∧ (s.findings u).artifact = some x) ∨
    ∃ p r settings, c = .record x ∧ plan = .close p [] ∧ p.url = u ∧
      p.request.options.format = false ∧ lint p.url p.document settings = .ok r ∧ x = r.artifact := by
  cases h with
  | clear p =>
    rw [s.findings_clear u] at hx
    cases hx
  | purge =>
    rw [s.findings_purge u] at hx
    cases hx
  | replace p r settings passed =>
    rw [s.findings_replace u] at hx
    exact Or.inl ⟨by simp, by simp, hx⟩
  | remove d =>
    rw [Store.change, Store.findings_set_self] at hx
    exact Or.inl ⟨by simp, by simp, hx⟩
  | record p r settings about plain passed =>
    cases he : s.get? u with
    | none => simp [Store.change, Store.findings, he] at hx
    | some f =>
      simp only [Store.change, he, Store.findings_set_self, Option.some.injEq] at hx
      subst hx
      exact Or.inr ⟨p, r, settings, rfl, rfl, about, plain, passed, rfl⟩

/-- In every state that a session reaches without being called to make changes in the store, what is
stored for a document is well formed, and its artifact is that of a plain pass on the document since
when nothing has been cleared or purged. -/
theorem well_stored (u : Url) (as : List Action) (direct : ∀ l c, .call l (.change u c) ∉ as) :
    ((after as).store.findings u).WellFormed ∧
      ∀ x, ((after as).store.findings u).artifact = some x → RecordedSince u x as := by
  induction as using List.reverseRecOn with
  | nil => exact ⟨.empty, fun x hx => by cases hx⟩
  | append_singleton as a ih =>
    have hm : ∀ l c, .call l (.change u c) ∉ as := fun l c hl =>
      direct l c (List.mem_append_left _ hl)
    obtain ⟨wellFormed, recorded⟩ := ih hm
    by_cases makes : ∃ k c plan, Makes u k c plan (after as) a
    · obtain ⟨k, c, plan, makes⟩ := makes
      have meant := meansOwn_after hm makes.there c plan rfl
      rw [makes.store]
      refine ⟨meant.wellFormed _ wellFormed, ?_⟩
      intro x hx
      obtain ⟨rfl, there, turn⟩ := makes
      rcases meant.artifact _ hx with ⟨unclear, unpurged, hx⟩ |
        ⟨p, r, settings, rfl, rfl, about, plain, passed, hx⟩
      · refine (recorded x hx).snoc fun l plan' => ⟨?_, ?_⟩ <;>
        · rintro ⟨hl, there', _⟩
          cases hl
          cases there.symm.trans there'
          contradiction
      · exact ⟨as, [], k, p, r, settings, rfl, ⟨rfl, there, turn⟩, about, plain, passed, hx, by simp⟩
    · have same : (after (as ++ [a])).store.findings u = (after as).store.findings u := by
        rcases same_or_makes u as a with same | hmakes
        · rw [Store.findings, same]
          rfl
        · exact (makes hmakes).elim
      rw [same]
      refine ⟨wellFormed, fun x hx => (recorded x hx).snoc fun l plan => ?_⟩
      exact ⟨fun hc => makes ⟨l, _, plan, hc⟩, fun hp => makes ⟨l, _, plan, hp⟩⟩

/-- A document is opened and linted, and the editor has applied a quick fix, which has come to the
store to take out what it has found. -/
def untilApplied (u : Url) (text code value : String) : List Action :=
  [.openDocument u ⟨text, 1, .plainText⟩, .call 0 (.validate ⟨u, {}⟩), .advance 0, .advance 0,
    .answer 0 {}, .advance 0, .answer 0 {}, .advance 0, .advance 0, .answer 0 {}, .advance 0,
    .linted 0, .advance 0, .advance 0, .answer 0 {}, .advance 0, .advance 0, .answer 0 {}, .advance 0,
    .call 1 (.quickFix u code value), .advance 1, .advance 1, .answer 1 {}, .advance 1]

/-- A quick fix has taken out the first of three diagnostics. The other two are there with their quick
fixes, and so is the artifact of the pass that found all three. -/
theorem well_stored_after_fix :
    let run := untilApplied notes "sanity check guys\nslave" "kindlint-1" "confidence check" ++
      [.advance 1]
    let f := (after run).store.findings notes
    (∀ l c, .call l (.change notes c) ∉ run) ∧
    f.diagnostics.map Diagnostic.codeText = [some "kindlint-2", some "kindlint-3"] ∧
    f.fixes.entries.map (fun e => (e.1, e.2.map QuickFix.value)) =
      [("kindlint-2", ["people", "folks", "everyone"]),
        ("kindlint-3", ["secondary", "replica", "follower"])] ∧
    ∃ x, f.artifact = some x ∧ x.messageCount = 3 ∧ f.WellFormed ∧ RecordedSince notes x run := by
  intro run f
  have direct : ∀ l c, .call l (.change notes c) ∉ run := by simp [run, untilApplied]
  have counted : f.artifact.map Artifact.messageCount = some 3 := by decide +kernel
  obtain ⟨x, hx, count⟩ := Option.map_eq_some_iff.mp counted
  obtain ⟨wellFormed, recorded⟩ := well_stored notes run direct
  exact ⟨direct, by decide +kernel, by decide +kernel, x, hx, count, wellFormed, recorded x hx⟩

end Session

end Considerate
