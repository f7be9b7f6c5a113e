import Considerate.Proofs.Session.Tended
import Considerate.Proofs.Session.UpToDate

namespace Considerate

/-- The diagnostics and quick fixes that linting amounts to: none if the text cannot be read. -/
def outcome : Except LintError Report → List Diagnostic × Fixes
  | .ok r => (r.diagnostics, r.fixes)
  | .error _ => ([], {})

/-- Whether a pass is past taking away what was stored, and has no report yet. -/
def Stage.isBlank : Stage → Bool
  | .calling _ (.shown (.announce _)) | .back (.shown (.announce _)) _
  | .calling _ (.told (.configure _)) | .back (.told (.configure _)) _
  | .cell _ _ _ | .calling _ (.configured _ _) | .back (.configured _ _) _
  | .linting _ _ | .linted _ _ => true
  | _ => false

namespace Session

/-- Whether an action changes the document or invalidates its settings. -/
def Action.Edits (u : Url) : Action → Prop
  | .openDocument v _ | .changeText v _ _ => v = u
  | a => a.Forgets u

theorem Action.not_forgets_of_not_edits {u : Url} {a : Action} (h : ¬ a.Edits u) :
    ¬ a.Forgets u := by
  cases a with
  | openDocument | changeText => exact id
  | _ => exact h

variable {s t : Session} {k : Nat} {st next : Stage} {u : Url} {d : Document}
  {as : List Action} {a : Action}

/-- What is stored for the document, and shown since the last publication for it. -/
structure Stored (u : Url) (as : List Action) (o : List Diagnostic × Fixes) : Prop where
  diagnostics : ((after as).store.findings u).diagnostics = o.1
  fixes : ((after as).store.findings u).fixes = o.2
  shown : (published u as).getLast? = some o.1

theorem Stored.keep {o : List Diagnostic × Fixes} (h : Stored u as o)
    (hf : (after (as ++ [a])).store.get? u = (after as).store.get? u)
    (hp : published u (as ++ [a]) = published u as) : Stored u (as ++ [a]) o := by
  have hs : (after (as ++ [a])).store.findings u = (after as).store.findings u := by
    simp only [Store.findings, hf]
  exact ⟨hs ▸ h.diagnostics, hs ▸ h.fixes, hp ▸ h.shown⟩

/-- What is stored for the document is what linting it gives. -/
def Settled (u : Url) (d : Document) (as : List Action) : Prop :=
  ∃ settings, Fetched u settings as ∧ Stored u as (outcome (lint u (some d) settings))

theorem Settled.keep (h : Settled u d as) (kept : ¬ a.Forgets u)
    (hf : (after (as ++ [a])).store.get? u = (after as).store.get? u)
    (hp : published u (as ++ [a]) = published u as) : Settled u d (as ++ [a]) := by
  obtain ⟨settings, hs, ho⟩ := h
  exact ⟨settings, .kept as a settings hs kept, ho.keep hf hp⟩

/-- A pass for the document at this stage will store what linting gives. -/
inductive Owes (u : Url) (as : List Action) : Stage → Prop
  | clear (p : Pass) : Owes u as (.store (.change u .clear (.announce p)))
  | lint (st : Stage) (blank : st.isBlank = true) (nothing : Stored u as ([], {}))
      (unclosed : Unclosed u (after as)) : Owes u as st
  | replace (p : Pass) (r : Report) :
      Owes u as (.store (.change u (.replace r.diagnostics r.fixes) (.conclude p r)))

theorem Owes.keep (h : Owes u as st)
    (hf : (after (as ++ [a])).store.get? u = (after as).store.get? u)
    (hp : published u (as ++ [a]) = published u as)
    (hc : Unclosed u (after as) → Unclosed u (after (as ++ [a]))) : Owes u (as ++ [a]) st := by
  cases h with
  | clear p => exact .clear p
  | lint st blank nothing unclosed => exact .lint st blank (nothing.keep hf hp) (hc unclosed)
  | replace p r => exact .replace p r

/-- A request to lint the document and to show what is found has not begun yet. -/
def Wanted (u : Url) (s : Session) : Prop :=
  (∃ k r, s.tasks.get? k = some (.fresh (.validate r)) ∧ r.url = u ∧ r.options.format = false) ∨
  ∃ o ∈ s.schedule.queuedFor u, o.format = false

theorem Owes.not_spent {p : Pass} (h : Owes u as st) (hd : p.document = some d) :
    ¬ Spent p st := by
  rintro (absent | he)
  · rw [hd] at absent
    cases absent
  · cases h with
    | clear | replace => cases he
    | lint st blank nothing unclosed =>
      unfold Stage.tellsEnd at he
      split at he
      · cases blank
      · cases blank
      · cases he

/-- All passes for the document that are not spent are up to date, and one of them has yet to store
what it finds, if that is not stored already and no close is left that forgets it. -/
structure CaughtUp (u : Url) (d : Document) (as : List Action) : Prop where
  passes : ∀ k st p, (after as).tasks.get? k = some st → st.pass? = some p → p.url = u →
    Spent p st ∨ UpToDate u d as p st
  work : (Settled u d as ∧ Unclosed u (after as)) ∨
    ∃ k st p, (after as).tasks.get? k = some st ∧ st.pass? = some p ∧ p.url = u ∧
      p.document = some d ∧ Owes u as st

/-- A task is at the same stage, up to what comes from outside. -/
inductive Hears : Stage → Stage → Prop
  | nothing (st : Stage) : Hears st st
  | answer (c : Call) (plan : Return) (x : Answer) : Hears (.calling c plan) (.back plan x)
  | linted (p : Pass) (settings : Settings) : Hears (.linting p settings) (.linted p settings)

theorem Hears.pass? (h : Hears st next) : next.pass? = st.pass? := by
  cases h with
  | nothing | linted => rfl
  | answer c plan x => exact pass?_back c plan x

theorem Hears.upToDate {p : Pass} (h : Hears st next) (hp : UpToDate u d as p st) :
    UpToDate u d as p next := by
  cases h with
  | nothing => exact hp
  | linted => exact ⟨hp.document, hp.cell, hp.settings, hp.report, rfl⟩
  | answer c plan x =>
    refine ⟨hp.document, ?_, by simp [Stage.settings?], ?_, rfl⟩
    · rw [cell?_back c]
      exact hp.cell
    · intro r hr
      apply hp.report r
      cases plan with
      | shown plan => cases plan <;> exact hr
      | _ => cases hr

theorem Hears.spent {p : Pass} (h : Hears st next) (hs : Spent p st) : Spent p next := by
  cases h with
  | nothing => exact hs
  | answer c plan x => exact spent_back x hs
  | linted q settings => exact hs.imp id nofun

theorem Hears.owes (h : Hears st next) (ho : Owes u as st) : Owes u as next := by
  cases h with
  | nothing => exact ho
  | linted p settings =>
    cases ho with
    | lint st blank nothing unclosed => exact .lint _ rfl nothing unclosed
  | answer c plan x =>
    cases ho with
    | lint st blank nothing unclosed =>
      refine .lint _ ?_ nothing unclosed
      cases plan with
      | shown plan => cases plan <;> first | rfl | cases blank
      | told plan => cases plan <;> first | rfl | cases blank
      | configured n reader => rfl
      | applied v x => cases blank

/-- A task whose stage does not change by itself is there afterwards. -/
theorem Step.hears {es : List Effect} (h : Step s a t es) (found : s.tasks.get? k = some st)
    (hd : a ≠ .drop k) (ha : a = .advance k → s.canGoOn k st = false) :
    ∃ next, t.tasks.get? k = some next ∧ Hears st next := by
  have hput : ∀ {id : Nat} {x : Stage}, k ≠ id → (s.put id x).tasks.get? k = some st := by
    intro id x hk
    rw [tasks_put_ne _ _ hk, found]
  cases h with
  | known | rest | unheard | idle | gone | openDocument | invalidate =>
    exact ⟨st, found, .nothing st⟩
  | call id job new =>
    refine ⟨st, hput ?_, .nothing st⟩
    rintro rfl
    rw [contains_eq_false.mp new] at found
    cases found
  | advance id old fd ready t next moves =>
    have hk : k ≠ id := by
      rintro rfl
      rw [fd, Option.some.injEq] at found
      rw [← found, ready] at ha
      cases ha rfl
    refine ⟨st, ?_, .nothing st⟩
    rw [tasks_put_ne _ _ hk, moves.tasks, found]
  | answer id x c plan fd =>
    by_cases hk : k = id
    · subst hk
      rw [fd, Option.some.injEq] at found
      subst found
      exact ⟨_, Keyed.get?_set_self .., .answer c plan x⟩
    · exact ⟨st, hput hk, .nothing st⟩
  | linted id p settings fd =>
    by_cases hk : k = id
    · subst hk
      rw [fd, Option.some.injEq] at found
      subst found
      exact ⟨_, Keyed.get?_set_self .., .linted p settings⟩
    · exact ⟨st, hput hk, .nothing st⟩
  | drop id old fd =>
    have hk : k ≠ id := fun he => hd (by rw [he])
    refine ⟨st, ?_, .nothing st⟩
    rw [tasks_letGo, Keyed.get?_erase_ne _ hk, found]
  | changeText v text version =>
    rcases changeText_cases s v text version with he | ⟨d, he⟩ <;> rw [he] <;>
      exact ⟨st, found, .nothing st⟩
  | reload files root =>
    rw [reload_eq]
    exact ⟨st, found, .nothing st⟩

/-- A task that is not dropped goes on or stays at its stage, up to what comes from outside. -/
theorem advance_or_hears (found : (after as).tasks.get? k = some st) (kept : a ≠ .drop k) :
    (∃ t next, a = .advance k ∧ GoesOn as k st t next) ∨
    ∃ next, (after (as ++ [a])).tasks.get? k = some next ∧ Hears st next := by
  by_cases ready : a = .advance k ∧ (after as).canGoOn k st = true
  · obtain ⟨rfl, ready⟩ := ready
    exact Or.inl ⟨_, _, rfl, goesOn_of_ready found ready⟩
  · right
    rw [after_snoc]
    refine (step_act (after as) a).hears found kept ?_
    exact fun ha => Bool.eq_false_iff.mpr fun hr => ready ⟨ha, hr⟩

/-- An action that is not about the document leaves what concerns it as it was. -/
theorem Step.keeps {es : List Effect} (h : Step s a t es) (spares : a.Spares u)
    (unedited : ¬ a.Edits u)
    (hs : ∀ id st, a = .advance id → s.tasks.get? id = some st → s.canGoOn id st = true →
      OnCourse st ∧ st.subject? ≠ some u) : Keeps u s t ∧ shownIn u es = [] := by
  cases h with
  | known | rest | unheard | idle | gone => exact ⟨.of_eq rfl rfl rfl rfl, rfl⟩
  | call id job new =>
    exact ⟨.put (.of_eq rfl rfl rfl rfl) id _, rfl⟩
  | advance id st found ready t next moves =>
    obtain ⟨hc, hu⟩ := hs id st rfl found ready
    refine ⟨(moves.keeps hc hu).1.put id next, ?_⟩
    rw [shownIn_woken]
    exact moves.shownIn hu
  | answer id x c plan found => exact ⟨.put (.of_eq rfl rfl rfl rfl) id _, rfl⟩
  | linted id p settings found => exact ⟨.put (.of_eq rfl rfl rfl rfl) id _, rfl⟩
  | drop id st found => exact spares.elim
  | openDocument v d =>
    exact ⟨⟨Keyed.get?_set_ne _ (Ne.symm unedited) _, rfl, rfl, rfl, fun _ h => h⟩, rfl⟩
  | changeText v text version =>
    rcases changeText_cases s v text version with he | ⟨d, he⟩ <;> rw [he]
    · exact ⟨.of_eq rfl rfl rfl rfl, rfl⟩
    · exact ⟨⟨Keyed.get?_set_ne _ (Ne.symm unedited) _, rfl, rfl, rfl, fun _ h => h⟩, rfl⟩
  | invalidate v =>
    refine ⟨⟨rfl, rfl, rfl, rfl, ?_⟩, rfl⟩
    intro n hn
    cases v with
    | none => exact (unedited (Or.inl rfl)).elim
    | some v =>
      refine (s.cells.forget_keeps ?_).trans hn
      rintro rfl
      exact unedited (Or.inr rfl)
  | reload files root =>
    rw [reload_eq]
    exact ⟨.of_eq rfl rfl rfl rfl, rfl⟩

section
variable (spares : a.Spares u) (unedited : ¬ a.Edits u)
  (apart : ∀ id st, a = .advance id → (after as).tasks.get? id = some st →
    (after as).canGoOn id st = true → st.subject? ≠ some u)

include spares unedited apart

theorem keeps_snoc : Keeps u (after as) (after (as ++ [a])) ∧
    published u (as ++ [a]) = published u as := by
  have hs := (step_act (after as) a).keeps spares unedited fun id st ha found ready =>
    ⟨onCourse_after as found, apart id st ha found ready⟩
  rw [after_snoc, published_after, hs.2, List.append_nil]
  exact ⟨hs.1, rfl⟩

theorem CaughtUp.keep (h : CaughtUp u d as) (about : LintsOrCloses u (after as)) :
    CaughtUp u d (as ++ [a]) := by
  obtain ⟨hk, hp⟩ := keeps_snoc spares unedited apart
  have kept := Action.not_forgets_of_not_edits unedited
  have hs := step_act (after as) a
  constructor
  · intro k st p found here hu
    rw [after_snoc] at found
    have hold : ∀ old, (after as).tasks.get? k = some old → Hears old st →
        Spent p st ∨ UpToDate u d (as ++ [a]) p st := by
      intro old fd hh
      exact (h.passes k old p fd (hh.pass? ▸ here) hu).imp hh.spent
        fun up => (hh.upToDate up).keep kept hk.cell
    cases hs.arises found with
    | stays a fd => exact hold st fd (.nothing st)
    | called job fresh =>
      subst fresh
      cases here
    | moved old t fd ready moves result sight =>
      have hne := (moves.keeps (onCourse_after as fd) (apart k old rfl fd ready)).2
      have hsub := (moves.onCourse (onCourse_after as fd)).subject? here
      rw [hu] at hsub
      exact (hne hsub).elim
    | answered c plan x fd back =>
      subst back
      exact hold _ fd (.answer c plan x)
    | linted q settings fd ended =>
      subst ended
      exact hold _ fd (.linted q settings)
  · have hc : Unclosed u (after as) → Unclosed u (after (as ++ [a])) := fun hn =>
      hn.snoc about spares
    rcases h.work with ⟨hset, hn⟩ | ⟨k, st, p, found, here, hu, hd, owes⟩
    · exact Or.inl ⟨hset.keep kept hk.findings hp, hc hn⟩
    · right
      have hsub : st.subject? = some u := hu ▸ (onCourse_after as found).subject? here
      obtain ⟨next, fn, hh⟩ := hs.hears found (by rintro rfl; exact spares)
        (fun ha => Bool.eq_false_iff.mpr fun ready => apart k st ha found ready hsub)
      rw [← after_snoc] at fn
      exact ⟨k, next, p, fn, hh.pass?.trans here, hu, hd, (hh.owes owes).keep hk.findings hp hc⟩

theorem Wanted.keep (h : Wanted u (after as)) : Wanted u (after (as ++ [a])) := by
  obtain ⟨hk, _⟩ := keeps_snoc spares unedited apart
  rcases h with ⟨k, r, found, hr, plain⟩ | hq
  · left
    obtain ⟨next, fn, hh⟩ := (step_act (after as) a).hears found (by rintro rfl; exact spares)
      (fun ha => Bool.eq_false_iff.mpr fun ready => apart k _ ha found ready (congrArg some hr))
    rw [← after_snoc] at fn
    cases hh
    exact ⟨k, r, fn, hr, plain⟩
  · right
    rw [hk.queue]
    exact hq

end

end Session

end Considerate
