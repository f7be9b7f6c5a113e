import Considerate.Proofs.Session.Origins
import Considerate.Proofs.Session.UpToDate

namespace Considerate

namespace Settings

/-- What is loaded from the settings file of a directory: the usual settings if there is no file,
nothing if there is one that cannot be used. -/
def loaded? (files : Files) (root : String) : Option Settings :=
  match discover files root with
  | none => some {}
  | some path => (load files path).toOption

/-- The settings that the editor answers, if they can be used. -/
def usable? (answer : Option Json) : Option Settings := answer.bind fun j => (ofJson j).toOption

variable {s : Settings}

theorem conflicting_of_loaded? {files : Files} {root : String} (h : loaded? files root = some s) :
    s.conflicting = false := by
  unfold loaded? at h
  split at h
  · cases h
    rfl
  · rename_i path _
    have read : load files path = .ok s := by
      cases hl : load files path with
      | error e => simp [hl, Except.toOption] at h
      | ok t =>
        rw [hl] at h
        cases h
        rfl
    exact conflicting_of_load read

theorem conflicting_of_usable? {answer : Option Json} (h : usable? answer = some s) :
    s.conflicting = false := by
  obtain ⟨j, -, hj⟩ := Option.bind_eq_some_iff.mp h
  cases ho : ofJson j with
  | error e => simp [ho, Except.toOption] at hj
  | ok t =>
    rw [ho] at hj
    cases hj
    exact (ofJson_eq_ok_iff.mp ho).2

end Settings

namespace Session

variable {s t : Session} {id k n : Nat} {u : Url} {st next : Stage} {p : Pass} {as : List Action}
  {a : Action} {settings : Settings}

def Action.loads? : Action → Option Settings
  | .reload files root => Settings.loaded? files root
  | _ => none

/-- The settings of the workspace: those that were loaded last, the usual ones if none were. -/
def workspaceSettings (as : List Action) : Settings :=
  (as.filterMap Action.loads?).getLast?.getD {}

theorem workspaceSettings_snoc (as : List Action) (a : Action) :
    workspaceSettings (as ++ [a]) = a.loads?.getD (workspaceSettings as) := by
  unfold workspaceSettings
  cases h : a.loads? with
  | none => simp [h]
  | some s => simp [h]

theorem Begins.workspace {r : Request} {ticket : Nat} (h : Begins s r ticket t st) :
    t.workspace = s.workspace := by rw [h.frame]

theorem Resumes.workspace {plan : Plan} (h : Resumes s plan t next) :
    t.workspace = s.workspace := by rw [h.frame]

theorem Moves.workspace (h : Moves s id st t next) : t.workspace = s.workspace := by
  cases h with
  | start r idle t next begins => exact begins.workspace
  | keep u c plan turn store changed t next resumes => exact resumes.workspace
  | shown plan x t next resumes => exact resumes.workspace
  | told plan x t next resumes => exact resumes.workspace
  | _ => rfl

/-- The settings of the workspace change when they are loaded, and not otherwise. -/
theorem workspace_act (s : Session) (a : Action) :
    (s.act a).1.workspace.getD {} = a.loads?.getD (s.workspace.getD {}) := by
  have hs := step_act s a
  generalize (s.act a).1 = t, (s.act a).2 = es at *
  cases hs with
  | known | rest | unheard | idle | gone | openDocument | invalidate => rfl
  | call | answer | linted =>
    rw [put_eq]
    rfl
  | advance id st found ready t next moves =>
    rw [put_eq, moves.workspace]
    rfl
  | drop id st found =>
    unfold letGo
    cases st.cell? <;> cases st.pass? <;> rfl
  | changeText v text version =>
    rcases changeText_cases s v text version with he | ⟨d, he⟩ <;> rw [he] <;> rfl
  | reload files root =>
    simp only [reload, Action.loads?, Settings.loaded?]
    cases Settings.discover files root with
    | none => rfl
    | some path =>
      simp only
      cases Settings.load files path <;> rfl

theorem workspace_after (as : List Action) :
    (after as).workspace.getD {} = workspaceSettings as := by
  induction as using List.reverseRecOn with
  | nil => rfl
  | append_singleton as a ih => rw [after_snoc, workspace_act, ih, workspaceSettings_snoc]

theorem conflicting_workspace (as : List Action) : (workspaceSettings as).conflicting = false := by
  unfold workspaceSettings
  cases h : (as.filterMap Action.loads?).getLast? with
  | none => rfl
  | some s =>
    obtain ⟨a, -, ha⟩ := List.mem_filterMap.mp (List.mem_of_getLast? h)
    cases a with
    | reload files root => exact Settings.conflicting_of_loaded? ha
    | _ => cases ha

theorem settingsFrom_eq (s : Session) (answer : Option Json) :
    s.settingsFrom answer = (Settings.usable? answer).getD (s.workspace.getD {}) := by
  unfold settingsFrom Settings.usable?
  split
  · rfl
  · rfl
  · rename_i j _
    cases h : Settings.ofJson j <;> simp [h, Except.toOption]

/-- What is fetched is what the editor answers, or else the settings of the workspace as they are
when the answer is taken. -/
theorem Fetch.settings_eq (f : Fetch) :
    f.settings =
      (Settings.usable? f.answer.configuration).getD (workspaceSettings f.history) := by
  rw [Fetch.settings, settingsFrom_eq, workspace_after]

theorem Fetch.valid (f : Fetch) : f.settings.conflicting = false := by
  rw [f.settings_eq]
  cases h : Settings.usable? f.answer.configuration with
  | none => exact conflicting_workspace f.history
  | some s => exact Settings.conflicting_of_usable? h

def FetchedFor (u : Url) (settings : Settings) (as : List Action) : Prop :=
  ∃ f : Fetch, f.About u ∧ f.settings = settings ∧ f.history ++ [.advance f.task] <+: as

theorem FetchedFor.snoc (h : FetchedFor u settings as) (a : Action) :
    FetchedFor u settings (as ++ [a]) := by
  obtain ⟨f, about, hs, hp⟩ := h
  exact ⟨f, about, hs, hp.trans (List.prefix_append as [a])⟩

theorem claims_of_pass (as : List Action) (found : (after as).tasks.get? k = some st)
    (hp : st.pass? = some p) (hn : st.cell? = some n) :
    ∃ before, before <+: as ∧ (after before).Claims p.url n := by
  induction as using List.reverseRecOn generalizing st with
  | nil => cases found
  | append_singleton as a ih =>
    have earlier : ∀ {old : Stage}, (after as).tasks.get? k = some old → old.pass? = some p →
        old.cell? = some n → ∃ before, before <+: as ++ [a] ∧ (after before).Claims p.url n := by
      intro old there hp hn
      obtain ⟨before, hb, claims⟩ := ih there hp hn
      exact ⟨before, hb.trans (List.prefix_append as [a]), claims⟩
    have course := onCourse_after _ found p hp
    have found' := found
    rw [after_snoc] at found'
    cases (step_act (after as) a).arises found' with
    | stays a there => exact earlier there hp hn
    | called job fresh =>
      subst fresh
      cases hp
    | linted q settings there ended =>
      subst ended
      cases hn
    | answered c plan x there back =>
      subst back
      exact earlier there ((pass?_back c plan x).symm.trans hp) ((cell?_back c plan x).symm.trans hn)
    | moved old t there ready moves result sight =>
      cases course with
      | wanting m =>
        cases hn
        exact ⟨_, List.prefix_refl _, Or.inr ⟨k, _, found⟩⟩
      | asking m =>
        cases hn
        obtain ⟨v, r, rfl, hc⟩ := moves.seeks.asks
        cases hc
        exact ⟨as, List.prefix_append .., Or.inr ⟨k, r, there⟩⟩
      | asked m x => exact (moves.ne_back rfl).elim
      | _ => cases hn

theorem fetchedFor_after (as : List Action) (found : (after as).tasks.get? k = some st)
    (hp : st.pass? = some p) (hs : st.settings? = some settings) :
    FetchedFor p.url settings as := by
  induction as using List.reverseRecOn generalizing st with
  | nil => cases found
  | append_singleton as a ih =>
    have found' := found
    rw [after_snoc] at found'
    cases (step_act (after as) a).arises found' with
    | stays a there => exact (ih there hp hs).snoc a
    | called job fresh =>
      subst fresh
      cases hp
    | answered c plan x there back =>
      subst back
      cases hs
    | linted q given there ended =>
      subst ended
      exact (ih there hp hs).snoc _
    | moved old t there ready moves result sight =>
      have belongs : ∀ {before v n}, (after before).Claims v n → before <+: as →
          old.cell? = some n → old.pass? = some p → v = p.url := by
        intro before v n claims hb hn hq
        obtain ⟨_, hw, wanted⟩ := claims_of_pass as there hq hn
        exact eq_of_claims_prefix hb hw claims wanted
      rcases moves.settings? hs with ⟨v, n, reader, rfl, value⟩ | ⟨n, reader, x, rfl, rfl⟩
      · cases moves with
        | filled _ _ reader settings value =>
          cases reader <;> cases hp
          cases hs
          obtain ⟨v, f, rest, about, hf, claims, he⟩ := (traced_after as).value n _ value
          have hb : f.history ++ [.advance f.task] <+: as := ⟨rest, by simp [he]⟩
          have ha : f.asked <+: as :=
            ((List.prefix_append f.asked _).trans (List.prefix_append f.history _)).trans hb
          cases belongs claims ha rfl rfl
          exact FetchedFor.snoc ⟨f, about, hf, hb⟩ _
        | ask | queueForCell => cases hs
      · cases moves with
        | configured _ reader x =>
          cases reader <;> cases hp
          obtain ⟨v, f, about, rfl, rfl, claims, rfl⟩ := (traced_after as).answers k n x _ there
          cases belongs claims (List.prefix_append ..) rfl rfl
          exact ⟨f, about, rfl, List.prefix_refl _⟩

end Session

end Considerate
