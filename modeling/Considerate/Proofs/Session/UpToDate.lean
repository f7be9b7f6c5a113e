import Considerate.Proofs.Session.Fetched
import Considerate.Proofs.Session.Shown
import Considerate.Proofs.Session.Spared

namespace Considerate

def Stage.settings? : Stage → Option Settings
  | .linting _ settings | .linted _ settings => some settings
  | _ => none

def Stage.report? : Stage → Option Report
  | .store (.change _ _ (.conclude _ r)) | .calling _ (.shown (.conclude _ r))
  | .back (.shown (.conclude _ r)) _ => some r
  | _ => none

def Stage.takesBack : Stage → Bool
  | .store (.change _ .purge (.close _ _)) => true
  | _ => false

namespace Session

variable {s t : Session} {k : Nat} {st next : Stage} {u : Url} {d : Document}

/-- A pass that begins has nothing yet that could be out of date. -/
theorem Begins.empty {r : Request} {ticket : Nat} (h : Begins s r ticket t st) :
    st.settings? = none ∧ st.report? = none ∧ st.takesBack = false := by
  cases h <;> exact ⟨rfl, rfl, rfl⟩

theorem Resumes.empty {plan : Plan} (h : Resumes s plan t next) :
    next.settings? = none ∧ next.report? = none := by
  cases h with
  | replay p es owner r schedule handed t next begins => exact ⟨begins.empty.1, begins.empty.2.1⟩
  | _ => exact ⟨rfl, rfl⟩

/-- The settings that a pass comes to lint under are those of the cell that it wanted, or those
that it has just fetched. -/
theorem Moves.settings? {settings : Settings} (h : Moves s k st t next)
    (hn : next.settings? = some settings) :
    (∃ v n reader, st = .cell v n reader ∧ (s.cells.get n).value = some settings) ∨
    ∃ n reader x, st = .back (.configured n reader) x ∧
      settings = s.settingsFrom x.configuration := by
  cases h with
  | start r idle t next begins =>
    rw [begins.empty.1] at hn
    cases hn
  | keep v c plan turn store changed t next resumes | shown plan x t next resumes
  | told plan x t next resumes =>
    rw [resumes.empty.1] at hn
    cases hn
  | configured n reader x =>
    cases reader <;> cases hn
    exact Or.inr ⟨n, _, x, rfl, rfl⟩
  | filled v n reader settings value =>
    cases reader <;> cases hn
    exact Or.inl ⟨v, n, _, rfl, value⟩
  | _ => cases hn

theorem Moves.report? {r : Report} (h : Moves s k st t next) (hn : next.report? = some r) :
    st.report? = some r ∨
    ∃ p settings, st = .linted p settings ∧ lint p.url p.document settings = .ok r := by
  cases h with
  | start q idle t next begins =>
    rw [begins.empty.2.1] at hn
    cases hn
  | keep v c plan turn store changed t next resumes | shown plan x t next resumes
  | told plan x t next resumes =>
    rw [resumes.empty.2] at hn
    cases hn
  | queue a busy => exact Or.inl hn
  | publish v c plan turn store ds changed =>
    cases plan <;> cases hn
    exact Or.inl rfl
  | configured n reader x => cases reader <;> cases hn
  | filled v n reader settings value => cases reader <;> cases hn
  | report p settings q passed opened =>
    cases hn
    exact Or.inr ⟨p, settings, rfl, passed⟩
  | _ => cases hn

/-- Findings are taken back for documents that are not open. -/
theorem Moves.takesBack (h : Moves s k st t next) (hn : next.takesBack = true) :
    st.takesBack = true ∨ ∃ p, next.pass? = some p ∧ s.documents.get? p.url = none := by
  have hr : ∀ {plan : Plan} {v : Session}, Resumes v plan t next → v.documents = s.documents →
      ∃ p, next.pass? = some p ∧ s.documents.get? p.url = none := by
    intro plan v h hv
    cases h with
    | replay p es owner r schedule handed t next begins =>
      rw [begins.empty.2.2] at hn
      cases hn
    | purge p r closed =>
      refine ⟨p, rfl, ?_⟩
      rw [← hv]
      simpa [isOpen, Keyed.contains] using closed
    | _ => cases hn
  cases h with
  | start q idle t next begins =>
    rw [begins.empty.2.2] at hn
    cases hn
  | keep v c plan turn store changed t next resumes => exact Or.inr (hr resumes rfl)
  | shown plan x t next resumes => exact Or.inr (hr resumes rfl)
  | told plan x t next resumes => exact Or.inr (hr resumes rfl)
  | queue a busy => exact Or.inl hn
  | change v c => cases c <;> cases hn
  | configured n reader x => cases reader <;> cases hn
  | filled v n reader settings value => cases reader <;> cases hn
  | _ => cases hn

/-- The pass at a stage works on the document as it is, with nothing that has been invalidated
since. -/
structure UpToDate (u : Url) (d : Document) (as : List Action) (p : Pass) (st : Stage) : Prop where
  document : p.document = some d
  cell : ∀ n, st.cell? = some n → (after as).cells.current.get? u = some n
  settings : ∀ settings, st.settings? = some settings → Fetched u settings as
  report : ∀ r, st.report? = some r →
    ∃ settings, Fetched u settings as ∧ lint u (some d) settings = .ok r
  stays : st.takesBack = false

theorem UpToDate.keep {as : List Action} {a : Action} {p : Pass} (h : UpToDate u d as p st)
    (kept : ¬ a.Forgets u)
    (hc : ∀ n, (after as).cells.current.get? u = some n →
      (after (as ++ [a])).cells.current.get? u = some n) :
    UpToDate u d (as ++ [a]) p st where
  document := h.document
  cell n hn := hc n (h.cell n hn)
  settings settings hs := .kept as a settings (h.settings settings hs) kept
  report r hr := by
    obtain ⟨settings, hf, hl⟩ := h.report r hr
    exact ⟨settings, .kept as a settings hf kept, hl⟩
  stays := h.stays

theorem Begins.upToDate {as : List Action} {r : Request} {ticket : Nat} {p : Pass}
    (h : Begins s r ticket t st) (hd : s.documents.get? r.url = some d) (hp : st.pass? = some p) :
    UpToDate u d as p st := by
  obtain ⟨hs, hr, hb⟩ := h.empty
  refine ⟨?_, by simp [h.cell?], by simp [hs], by simp [hr], hb⟩
  cases h with
  | clear | announce =>
    cases hp
    exact hd

theorem GoesOn.fetched {as : List Action} {settings : Settings} (h : GoesOn as k st t next)
    (hc : ∀ n, st.cell? = some n → (after as).cells.current.get? u = some n)
    (hn : next.settings? = some settings) : Fetched u settings (as ++ [.advance k]) := by
  have hs := sourced_after u as
  rcases h.moves.settings? hn with ⟨v, n, reader, rfl, hv⟩ | ⟨n, reader, x, rfl, rfl⟩
  · exact .kept _ _ _ (hs.value n settings (hc n rfl) hv) (not_forgets_advance u k)
  · exact .taken as k x (hs.answers n (hc n rfl) k x reader h.found)

/-- A pass that goes on stays up to date, as long as its document is open. -/
theorem UpToDate.advance {as : List Action} {p q : Pass} (h : UpToDate u d as p st)
    (here : st.pass? = some p) (hu : p.url = u) (hd : (after as).documents.get? u = some d)
    (goes : GoesOn as k st t next) (goal : next.pass? = some q)
    (same : q.unnumbered = p.unnumbered) : UpToDate u d (as ++ [.advance k]) q next := by
  have hq : q.url = u := (congrArg Pass.url same).trans hu
  have hforgets := not_forgets_advance u k
  have hcourse := onCourse_after as goes.found
  have moves := goes.moves
  constructor
  · exact (congrArg Pass.document same).trans h.document
  · intro n hn
    have hkeeps := moves.seeks.keeps_cell (u := u) (by rintro rfl; cases here)
    rw [goes.cells]
    cases moves.seeks with
    | nothing same apart | forget v hs forgotten apart =>
      rw [apart] at hn
      cases hn
    | want v reader wanted at' =>
      subst at'
      cases moves.onCourse hcourse q goal
      cases hn
      rw [← hq, wanted]
      exact (after as).cells.ofDocument_self q.url
    | queue v m reader hs requested same' =>
      subst same'
      exact hkeeps n (h.cell n hn)
    | ask v m reader hs requested asks =>
      subst asks
      exact hkeeps n (h.cell n (hs ▸ hn))
    | filled v m reader hs settings value same' goal | fill m reader x hs fills goal =>
      rw [goal, cell?_handOver] at hn
      cases hn
  · exact fun settings hs => goes.fetched h.cell hs
  · intro r hr
    rcases moves.report? hr with ho | ⟨p', settings, rfl, hl⟩
    · obtain ⟨settings, hf, hl⟩ := h.report r ho
      exact ⟨settings, .kept _ _ _ hf hforgets, hl⟩
    · cases here
      refine ⟨settings, .kept _ _ _ (h.settings settings rfl) hforgets, ?_⟩
      rw [← hu, ← h.document]
      exact hl
  · cases hb : next.takesBack with
    | false => rfl
    | true =>
      rcases moves.takesBack hb with ho | ⟨p', hp', hn⟩
      · rw [h.stays] at ho
        cases ho
      · rw [goal, Option.some.injEq] at hp'
        subst hp'
        rw [hq, hd] at hn
        cases hn

end Session

end Considerate
