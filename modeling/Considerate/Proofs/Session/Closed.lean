import Considerate.Proofs.Session.Publications
import Considerate.Proofs.Session.Regular
import Considerate.Proofs.Session.Update

namespace Considerate

/-- The stages of a task that is about to forget the document in the store. A pass that has stored its
findings is, if the document is not open then. -/
inductive Stage.Clears (u : Url) : Stage → Prop
  | purge (plan : Plan) : Clears u (.store (.change u .purge plan))
  | showing (c : Call) (p : Pass) (r : Report) (about : p.url = u) :
      Clears u (.calling c (.shown (.conclude p r)))
  | shown (p : Pass) (r : Report) (x : Answer) (about : p.url = u) :
      Clears u (.back (.shown (.conclude p r)) x)

namespace Cells

theorem ofDocument_ne (c : Cells) {u v : Url} (h : v ≠ u) :
    (c.ofDocument u).1.current.get? v = c.current.get? v := by
  rcases c.ofDocument_cases u with ⟨_, hd⟩ | ⟨_, _, hd⟩
  · rw [hd]
  · rw [hd]
    exact Keyed.get?_set_ne _ h _

end Cells

namespace Session

variable {s t : Session} {id k : Nat} {st next : Stage} {u : Url} {as : List Action} {a : Action}

theorem Hears.clears (h : Hears st next) (hc : st.Clears u) : next.Clears u := by
  cases h with
  | nothing => exact hc
  | answer c plan x =>
    cases hc with
    | showing c p r about => exact .shown p r x about
  | linted p settings => cases hc

theorem subject?_of_clears (h : st.Clears u) : st.subject? = some u := by
  cases h with
  | purge => rfl
  | showing c p r about => exact congrArg some about
  | shown p r x about => exact congrArg some about

/-- Going on changes which documents are open, and which is the current one, only for a task that
closes a document. -/
theorem Moves.registry (h : Moves s id st t next) :
    (t.documents = s.documents ∧ t.current = s.current) ∨
      ∃ v, st = .fresh (.close v) ∧ t = s.forget v := by
  cases h with
  | close v => exact Or.inr ⟨v, rfl, rfl⟩
  | start r idle t next begins => exact Or.inl (by rw [begins.frame]; exact ⟨rfl, rfl⟩)
  | keep v c plan turn store changed t next resumes =>
    exact Or.inl (by rw [resumes.frame]; exact ⟨rfl, rfl⟩)
  | shown plan x t next resumes => exact Or.inl (by rw [resumes.frame]; exact ⟨rfl, rfl⟩)
  | told plan x t next resumes => exact Or.inl (by rw [resumes.frame]; exact ⟨rfl, rfl⟩)
  | _ => exact Or.inl ⟨rfl, rfl⟩

theorem not_isOpen_iff : s.isOpen u = false ↔ s.documents.get? u = none := by
  simp [isOpen, Keyed.contains]

theorem documents_forget (s : Session) (h : s.documents.get? u = none) (v : Url) :
    (s.forget v).documents.get? u = none := by
  by_cases hv : u = v
  · subst hv
    exact Keyed.get?_erase_self ..
  · exact (Keyed.get?_erase_ne _ hv).trans h

theorem current_forget (s : Session) (h : s.current ≠ some u) (v : Url) :
    (s.forget v).current ≠ some u := by
  simp only [forget]
  split
  · simp
  · exact h

theorem Step.unregistered {es : List Effect} (h : Step s a t es)
    (unopened : ∀ d, a ≠ .openDocument u d) (hd : s.documents.get? u = none)
    (hc : s.current ≠ some u) : t.documents.get? u = none ∧ t.current ≠ some u := by
  have hput : ∀ {v : Session}, v.documents.get? u = none → v.current ≠ some u → ∀ k st,
      (v.put k st).documents.get? u = none ∧ (v.put k st).current ≠ some u := by
    intro v hv hw k st
    rw [put_eq]
    exact ⟨hv, hw⟩
  have hopen : ∀ {v d}, v ≠ u → (s.openDocument v d).documents.get? u = none ∧
      (s.openDocument v d).current ≠ some u := by
    intro v d hv
    refine ⟨(Keyed.get?_set_ne _ (Ne.symm hv) _).trans hd, ?_⟩
    simpa [Session.openDocument] using hv
  cases h with
  | known | rest | unheard | idle | gone | invalidate => exact ⟨hd, hc⟩
  | call | answer | linted => exact hput hd hc _ _
  | advance id st found ready t next moves =>
    rcases moves.registry with ⟨he, hk⟩ | ⟨v, -, rfl⟩
    · exact hput (he ▸ hd) (hk ▸ hc) _ _
    · exact hput (documents_forget s hd v) (current_forget s hc v) _ _
  | drop id st found =>
    unfold letGo
    cases st.cell? <;> cases st.pass? <;> exact ⟨hd, hc⟩
  | openDocument v d =>
    apply hopen
    rintro rfl
    exact unopened d rfl
  | changeText v text version =>
    unfold Session.changeText
    cases hv : s.documents.get? v with
    | none => exact ⟨hd, hc⟩
    | some d =>
      apply hopen
      rintro rfl
      rw [hd] at hv
      cases hv
  | reload files root =>
    rw [reload_eq]
    exact ⟨hd, hc⟩

theorem Resumes.no_cell {plan : Plan} (h : Resumes s plan t next)
    (hc : s.cells.current.get? u = none) (closed : s.documents.get? u = none) :
    t.cells.current.get? u = none := by
  cases h with
  | want p d found opened =>
    have hne : u ≠ p.url := by
      rintro rfl
      rw [not_isOpen_iff.mpr closed] at opened
      cases opened
    exact (s.cells.ofDocument_ne hne).trans hc
  | replay p es owner r schedule handed t next begins =>
    rw [begins.cells]
    exact hc
  | _ => exact hc

/-- A document that is not open gets no cell, unless its settings are called for. -/
theorem Moves.no_cell (h : Moves s id st t next) (hc : s.cells.current.get? u = none)
    (closed : s.documents.get? u = none) (hs : st ≠ .fresh (.settings u)) :
    t.cells.current.get? u = none := by
  cases h with
  | start r idle t next begins =>
    rw [begins.cells]
    exact hc
  | close v =>
    by_cases hv : u = v
    · subst hv
      exact Keyed.get?_erase_self ..
    · exact (s.cells.forget_keeps hv).trans hc
  | settings v =>
    have hne : u ≠ v := by
      rintro rfl
      exact hs rfl
    exact (s.cells.ofDocument_ne hne).trans hc
  | keep v c plan turn store changed t next resumes => exact resumes.no_cell hc closed
  | shown plan x t next resumes => exact resumes.no_cell hc closed
  | told plan x t next resumes => exact resumes.no_cell hc closed
  | _ => exact hc

theorem Step.no_cell {es : List Effect} (h : Step s a t es) (hc : s.cells.current.get? u = none)
    (closed : s.documents.get? u = none) (hs : ∀ k, s.tasks.get? k ≠ some (.fresh (.settings u))) :
    t.cells.current.get? u = none := by
  cases h with
  | known | rest | unheard | idle | gone | openDocument => exact hc
  | call | answer | linted =>
    rw [cells_put]
    exact hc
  | advance id st found ready t next moves =>
    rw [cells_put]
    refine moves.no_cell hc closed ?_
    rintro rfl
    exact hs id found
  | drop id st found =>
    rcases cells_letGo { s with tasks := s.tasks.erase id } id st with he | ⟨n, turns, he⟩ <;>
      rw [he] <;> exact hc
  | changeText v text version =>
    rcases changeText_cases s v text version with he | ⟨d, he⟩ <;> rw [he] <;> exact hc
  | invalidate v =>
    cases v with
    | none => rfl
    | some v =>
      by_cases hv : u = v
      · subst hv
        exact Keyed.get?_erase_self ..
      · exact (s.cells.forget_keeps hv).trans hc
  | reload files root =>
    rw [reload_eq]
    exact hc

/-- A task that is at the store to forget a document is there still when it goes on, or it has
done so and shows nothing for the document. -/
theorem Moves.purges {plan : Plan} (h : Moves s id (.store (.change u .purge plan)) t next) :
    next = .store (.change u .purge plan) ∨
    t.store.get? u = none ∧ Session.shownIn u (seen id next) = [[]] := by
  cases h with
  | queue a busy => exact Or.inl rfl
  | publish v c plan turn store ds changed =>
    cases changed
    exact Or.inr ⟨Keyed.get?_erase_self .., shownIn_publish ..⟩
  | keep v c plan turn store changed t next resumes => cases congrArg Prod.snd changed

/-- A task that is about to forget a document which is not open is so still when it goes on, or it
has done so. -/
theorem Moves.clears (h : Moves s id st t next) (hs : st.Clears u)
    (closed : s.documents.get? u = none) : next.Clears u ∨ t.store.get? u = none := by
  cases hs with
  | purge plan =>
    rcases h.purges with rfl | ⟨empty, _⟩
    · exact Or.inl (.purge plan)
    · exact Or.inr empty
  | showing c p r about => cases h
  | shown p r x about =>
    subst about
    have hn : s.isOpen p.url = false := not_isOpen_iff.mpr closed
    cases h with
    | shown plan x t next resumes =>
      cases resumes with
      | purge => exact Or.inl (.purge _)
      | format q r opened | record q r opened =>
        cases hn.symm.trans opened

/-- A task that lints a document for which nothing is stored leaves it so, or it stores its findings
and is about to forget them. -/
theorem Moves.stores_nothing (h : Moves s id st t next) (hv : st.Validates u) (hc : OnCourse st)
    (empty : s.store.get? u = none) : t.store.get? u = none ∨ next.Clears u := by
  cases h.writes with
  | nothing same silent =>
    rw [same]
    exact Or.inl empty
  | publish v c plan here ds changed goal =>
    subst here goal
    rcases hv with ⟨r, hr, _⟩ | ⟨p, hp, rfl⟩
    · cases hr
    cases hc p hp with
    | clear plain =>
      simp only [Store.change, empty, Prod.mk.injEq] at changed
      rw [← changed.1]
      exact Or.inl empty
    | replace r => exact Or.inr (.showing _ p r rfl)
    | purge =>
      rw [← (Prod.mk.inj changed).1]
      exact Or.inl (Keyed.get?_erase_self ..)
    | record a =>
      have hd := congrArg Prod.snd changed
      rw [Store.shown_record] at hd
      cases hd
  | keep v c plan here changed silent =>
    left
    by_cases hv : u = v
    · have hn := s.store.kept_of_not_shown v (congrArg Prod.snd changed)
      rw [changed] at hn
      subst hv
      exact hn.2 empty
    · have hn := s.store.get?_change_ne hv c
      rw [changed] at hn
      rw [hn, empty]

/-- The document has been closed, and not opened since. What is still stored for it will be
forgotten, and so will be what the close has found. -/
structure Gone (u : Url) (as : List Action) : Prop where
  document : (after as).documents.get? u = none
  current : (after as).current ≠ some u
  cell : (after as).cells.current.get? u = none
  unasked : ∀ k, (after as).tasks.get? k ≠ some (.fresh (.settings u))
  cleared : (after as).store.get? u = none ∨
    ∃ k st, (after as).tasks.get? k = some st ∧ st.Clears u
  told : published u as ≠ [] ∨
    ∃ k plan, (after as).tasks.get? k = some (.store (.change u .purge plan))

theorem gone_of_close (closes : (after as).tasks.get? k = some (.fresh (.close u)))
    (unasked : ∀ l, (after as).tasks.get? l ≠ some (.fresh (.settings u))) :
    Gone u (as ++ [.advance k]) := by
  have goes := goesOn_of_ready closes rfl
  have self := goes.self nofun
  refine ⟨?_, ?_, ?_, not_fresh_snoc unasked nofun, ?_, ?_⟩
  · rw [goes.documents]
    exact Keyed.get?_erase_self ..
  · rw [goes.result, put_eq]
    simp only [advance, start, forget]
    split
    · simp
    · assumption
  · rw [goes.cells]
    exact Keyed.get?_erase_self ..
  · exact Or.inr ⟨k, _, self, .purge _⟩
  · exact Or.inr ⟨k, _, self⟩

/-- What is stored for the document is forgotten in the end, whoever goes on. -/
theorem Gone.cleared_snoc (h : Gone u as) (regular : ∀ b ∈ as ++ [a], b.Regular u) :
    (after (as ++ [a])).store.get? u = none ∨
      ∃ k st, (after (as ++ [a])).tasks.get? k = some st ∧ st.Clears u := by
  have hm : ∀ b ∈ as, b.Regular u := fun b hb => regular b (List.mem_append_left _ hb)
  have hclears : ∀ {k st t next}, GoesOn as k st t next → a = .advance k → st.Clears u →
      (after (as ++ [a])).store.get? u = none ∨
        ∃ k st, (after (as ++ [a])).tasks.get? k = some st ∧ st.Clears u := by
    rintro k st t next goes rfl hc
    rcases goes.moves.clears hc h.document with hn | empty
    · refine Or.inr ⟨k, next, goes.self ?_, hn⟩
      rintro v rfl
      cases hn
    · exact Or.inl (goes.store ▸ empty)
  rcases h.cleared with empty | ⟨k, st, found, hc⟩
  · rcases advance_or_still u as a with ⟨k, st, t, next, rfl, goes⟩ | ⟨_, same, _⟩
    · by_cases hu : st.subject? = some u
      · rcases lintsOrCloses_after as hm _ _ goes.found hu with hv | hcl
        · rcases goes.moves.stores_nothing hv (onCourse_after as goes.found) empty with he | hn
          · exact Or.inl (goes.store ▸ he)
          · refine Or.inr ⟨k, next, goes.self ?_, hn⟩
            rintro v rfl
            cases hn
        · cases hcl with
          | begin => exact Or.inl ((goes.nothing_stored (fun _ => nofun) u).1.trans empty)
          | purge => exact hclears goes rfl (.purge _)
      · have hk := (goes.moves.keeps (onCourse_after as goes.found) hu).1
        exact Or.inl ((goes.store ▸ hk.findings).trans empty)
    · exact Or.inl (same.trans empty)
  · have kept : a ≠ .drop k := fun hd => not_dropped_of_regular regular k (by simp [hd])
    rcases advance_or_hears found kept with ⟨t, next, ha, goes⟩ | ⟨next, fn, hh⟩
    · exact hclears goes ha hc
    · exact Or.inr ⟨k, next, fn, hh.clears hc⟩

/-- That nothing is left is shown in the end. -/
theorem Gone.told_snoc (h : Gone u as) (regular : ∀ b ∈ as ++ [a], b.Regular u) :
    published u (as ++ [a]) ≠ [] ∨
      ∃ k plan, (after (as ++ [a])).tasks.get? k = some (.store (.change u .purge plan)) := by
  rcases h.told with hp | ⟨k, plan, found⟩
  · left
    rw [published_after]
    simp [hp]
  · have kept : a ≠ .drop k := fun hd => not_dropped_of_regular regular k (by simp [hd])
    rcases advance_or_hears found kept with ⟨t, next, rfl, goes⟩ | ⟨next, fn, hh⟩
    · rcases goes.moves.purges with rfl | ⟨_, hs⟩
      · exact Or.inr ⟨k, plan, goes.self nofun⟩
      · left
        rw [goes.shown, hs]
        simp
    · cases hh
      exact Or.inr ⟨k, plan, fn⟩

theorem Gone.snoc (h : Gone u as) (regular : ∀ b ∈ as ++ [a], b.Regular u)
    (unopened : ∀ d, a ≠ .openDocument u d) (unasked : ∀ l, a ≠ .call l (.settings u)) :
    Gone u (as ++ [a]) := by
  have hs := step_act (after as) a
  rw [← after_snoc] at hs
  obtain ⟨hd, hc⟩ := hs.unregistered unopened h.document h.current
  exact ⟨hd, hc, hs.no_cell h.cell h.document h.unasked, not_fresh_snoc h.unasked unasked,
    h.cleared_snoc regular, h.told_snoc regular⟩

theorem gone_after {before rest : List Action} (h : Gone u before)
    (regular : ∀ a ∈ before ++ rest, a.Regular u) (unopened : ∀ d, .openDocument u d ∉ rest)
    (unasked : ∀ l, .call l (.settings u) ∉ rest) : Gone u (before ++ rest) := by
  induction rest using List.reverseRecOn with
  | nil => rwa [List.append_nil]
  | append_singleton rest a ih =>
    rw [← List.append_assoc] at regular ⊢
    have ih := ih (fun b hb => regular b (List.mem_append_left _ hb))
      (fun d hd => unopened d (List.mem_append_left _ hd))
      (fun l hl => unasked l (List.mem_append_left _ hl))
    refine ih.snoc regular ?_ ?_
    · rintro d rfl
      exact unopened d (by simp)
    · rintro l rfl
      exact unasked l (by simp)

/-- A close leaves nothing of its document behind, whatever was under way when it came and whichever
calls to change or to lint the document come after it: once no task is about the document any more,
it is neither open nor the current one, it has no settings and nothing in the schedule, nothing is
stored for it, and an empty list is what was last published for it. -/
theorem close_leaves_nothing (u : Url) (before rest : List Action) (k : Nat)
    (closes : (after before).tasks.get? k = some (.fresh (.close u)))
    (regular : ∀ a ∈ before ++ .advance k :: rest, a.Regular u)
    (asked : ∀ l, (after before).tasks.get? l ≠ some (.fresh (.settings u)))
    (unasked : ∀ l, .call l (.settings u) ∉ rest) (unopened : ∀ d, .openDocument u d ∉ rest)
    (ended : ∀ l st, (after (before ++ .advance k :: rest)).tasks.get? l = some st →
      st.subject? ≠ some u) :
    (after (before ++ .advance k :: rest)).isOpen u = false ∧
    (after (before ++ .advance k :: rest)).current ≠ some u ∧
    (after (before ++ .advance k :: rest)).cells.current.get? u = none ∧
    (after (before ++ .advance k :: rest)).schedule.isPending u = false ∧
    (after (before ++ .advance k :: rest)).schedule.queuedFor u = [] ∧
    (after (before ++ .advance k :: rest)).store.get? u = none ∧
    (published u (before ++ .advance k :: rest)).getLast? = some [] := by
  have hb : before ++ .advance k :: rest = (before ++ [.advance k]) ++ rest := by simp
  rw [hb] at regular ended ⊢
  have gone := gone_after (gone_of_close closes asked) regular unopened unasked
  generalize (before ++ [.advance k]) ++ rest = as at regular ended gone ⊢
  have idle : (after as).schedule.isPending u = false := by
    rw [Bool.eq_false_iff]
    intro hp
    obtain ⟨slot, hs⟩ := Schedule.isPending_iff.mp hp
    obtain ⟨l, st, found, hh⟩ := (held_after as).taken u slot hs
    obtain ⟨p, hp, he⟩ := Option.map_eq_some_iff.mp hh
    refine ended l st found ?_
    rw [(onCourse_after as found).subject? hp, (Prod.mk.inj he).1]
  have empty : (after as).store.get? u = none := by
    rcases gone.cleared with he | ⟨l, st, found, hc⟩
    · exact he
    · exact (ended l st found (subject?_of_clears hc)).elim
  have told : published u as ≠ [] := by
    rcases gone.told with hp | ⟨l, plan, found⟩
    · exact hp
    · exact (ended l _ found rfl).elim
  refine ⟨not_isOpen_iff.mpr gone.document, gone.current, gone.cell, idle, ?_, empty, ?_⟩
  · by_contra hq
    have hp := attended_after u as (not_dropped_of_regular regular) hq
    rw [idle] at hp
    cases hp
  · obtain ⟨ds, hd⟩ := Option.isSome_iff_exists.mp (List.getLast?_isSome.mpr told)
    have hs := (stored_after u as).1 ds hd
    rw [hd, ← hs, Store.findings, empty]
    rfl

/-- A document is opened and linted. The findings have just been stored, and are being shown, when a
call to close the document comes. -/
def untilClose (u : Url) : List Action :=
  [.openDocument u ⟨"guys", 1, .plainText⟩, .call 0 (.validate ⟨u, {}⟩), .advance 0, .advance 0,
    .answer 0 {}, .advance 0, .answer 0 {}, .advance 0, .advance 0, .answer 0 {}, .advance 0,
    .linted 0, .advance 0, .advance 0, .call 1 (.close u)]

/-- The document is forgotten in the store twice: for the call, which had to wait, and for the pass,
which has found the document closed. -/
def sinceClose : List Action :=
  [.advance 1, .answer 0 {}, .advance 0, .advance 1, .answer 1 {}, .advance 1, .advance 0,
    .answer 0 {}, .advance 0, .answer 0 {}, .advance 0]

/-- A close in the middle of a pass leaves nothing behind of what the pass has stored. -/
theorem close_during_showing :
    (after (untilClose notes)).store.contains notes = true ∧
    (after (untilClose notes ++ .advance 1 :: sinceClose)).isOpen notes = false ∧
    (after (untilClose notes ++ .advance 1 :: sinceClose)).current ≠ some notes ∧
    (after (untilClose notes ++ .advance 1 :: sinceClose)).cells.current.get? notes = none ∧
    (after (untilClose notes ++ .advance 1 :: sinceClose)).schedule.isPending notes = false ∧
    (after (untilClose notes ++ .advance 1 :: sinceClose)).schedule.queuedFor notes = [] ∧
    (after (untilClose notes ++ .advance 1 :: sinceClose)).store.get? notes = none ∧
    (published notes (untilClose notes ++ .advance 1 :: sinceClose)).getLast? = some [] := by
  refine ⟨by decide +kernel, close_leaves_nothing notes _ sinceClose 1 ?_ ?_ ?_ ?_ ?_ ?_⟩
  · have hb : untilClose notes = (untilClose notes).dropLast ++ [.call 1 (.close notes)] := rfl
    have new : (after (untilClose notes).dropLast).tasks.contains 1 = false := by decide +kernel
    rw [hb, after_snoc, act, new]
    exact Keyed.get?_set_self ..
  · simp [untilClose, sinceClose, Action.Regular, Job.Regular]
  · exact not_fresh_after (by simp [untilClose])
  · simp [sinceClose]
  · simp [sinceClose]
  · have hn : (after (untilClose notes ++ .advance 1 :: sinceClose)).tasks.entries.length = 0 := by
      decide +kernel
    intro l st hl
    rw [Keyed.get?_of_no_entries hn] at hl
    cases hl

end Session

end Considerate
