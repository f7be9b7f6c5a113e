import Considerate.Proofs.Session.Askers
import Considerate.Proofs.Session.Origins
import Considerate.Proofs.Session.Update

namespace Considerate.Session

/-- Whether an action takes away the settings that are kept for the document: they are invalidated,
or the document is closed. -/
def Discards (u : Url) (s : Session) : Action → Prop
  | .invalidate v => v = none ∨ v = some u
  | .advance k => s.tasks.get? k = some (.fresh (.close u))
  | _ => False

variable {s t : Session} {id k n : Nat} {u v : Url} {st next : Stage} {a : Action}
variable {es : List Effect} {as before during rest : List Action} {settings : Settings}

theorem current_of_discards (h : Discards u s a) : (s.act a).1.cells.current.get? u = none := by
  cases a with
  | invalidate v =>
    rcases h with rfl | rfl
    · rfl
    · exact Keyed.get?_erase_self ..
  | advance k =>
    have found : s.tasks.get? k = some (.fresh (.close u)) := h
    rw [act_advance found rfl, cells_put]
    exact Keyed.get?_erase_self ..
  | _ => exact h.elim

theorem Step.keeps_current (h : Step s a t es) (held : ¬ Discards u s a)
    (hn : s.cells.current.get? u = some n) : t.cells.current.get? u = some n := by
  cases h with
  | known | rest | unheard | idle | gone | openDocument => exact hn
  | call | answer | linted =>
    rw [cells_put]
    exact hn
  | advance k st found ready t next moves =>
    rw [cells_put]
    apply moves.seeks.keeps_cell _ n hn
    rintro rfl
    exact held found
  | drop k st found =>
    rcases cells_letGo { s with tasks := s.tasks.erase k } k st with he | ⟨m, turns, he⟩ <;>
      rw [he] <;> exact hn
  | changeText v text version =>
    rcases changeText_cases s v text version with he | ⟨d, he⟩ <;> rw [he] <;> exact hn
  | invalidate v =>
    cases v with
    | none => exact (held (Or.inl rfl)).elim
    | some v =>
      refine (s.cells.forget_keeps ?_).trans hn
      rintro rfl
      exact held (Or.inr rfl)
  | reload files root =>
    rw [reload_eq]
    exact hn

/-- The settings of the document are not discarded. -/
def Undisturbed (u : Url) (before during : List Action) : Prop :=
  ∀ earlier a later, during = earlier ++ a :: later → ¬ Discards u (after (before ++ earlier)) a

/-- A document keeps its cell until its settings are discarded. -/
theorem Undisturbed.current (h : Undisturbed u before during)
    (hn : (after before).cells.current.get? u = some n) :
    (after (before ++ during)).cells.current.get? u = some n := by
  apply kept_along (P := fun as => (after as).cells.current.get? u = some n) hn
  intro earlier a later he hc
  rw [after_snoc]
  exact (step_act _ a).keeps_current (h earlier a later he) hc

def Taken (s : Session) (n : Nat) : Prop :=
  (s.cells.get n).value ≠ none ∨ ∃ k, s.IsAsking k n

theorem SoleAsker.keeps_value (h : SoleAsker s) (hs : Step s a t es)
    (hv : (s.cells.get n).value = some settings) : (t.cells.get n).value = some settings := by
  cases hs.tends with
  | nothing same => rw [same, hv]
  | forget w forgotten =>
    rw [forgotten]
    cases w <;> exact hv
  | want w wanted => rw [wanted, Cells.get_ofDocument, hv]
  | turn m turns turned =>
    rw [turned]
    rcases s.cells.get_set_cases n m { s.cells.get m with turns } with he | ⟨rfl, he⟩ <;>
      rw [he] <;> exact hv
  | fill id m reader x here found fills =>
    have hm : n ≠ m := by
      rintro rfl
      have he := h.empty id n ((isAsking_iff found).mpr rfl)
      rw [hv] at he
      cases he
    rw [fills, Cells.fill, s.cells.get_set_ne hm, hv]

/-- A task that goes on from a cell is at it still, or it has got the value of the cell. It has the
value if it has asked the editor. -/
theorem Moves.leaves_cell (h : Moves s id st t next) (placed : Placed s)
    (found : s.tasks.get? id = some st) (hn : st.cell? = some n) :
    st.asks? = none ∧ next.cell? = some n ∨
    ∃ settings reader, next = handOver settings reader ∧ (t.cells.get n).value = some settings := by
  cases h.seeks with
  | nothing same apart free | want v reader wanted goal free =>
    rw [hn] at free
    cases free
  | forget v here forgotten apart =>
    rw [here] at hn
    cases hn
  | queue v m reader here requested same =>
    left
    rw [same, hn, here]
    exact ⟨rfl, rfl⟩
  | ask v m reader here requested asks =>
    left
    rw [← hn, here, asks]
    exact ⟨rfl, rfl⟩
  | filled v m reader here settings value same goal =>
    rw [here] at hn
    cases hn
    exact Or.inr ⟨settings, reader, goal, by rw [same, value]⟩
  | fill m reader x here fills goal =>
    rw [here] at hn
    cases hn
    have hlt := placed.known id st n found (by rw [here]; rfl)
    exact Or.inr ⟨_, reader, goal, by rw [fills, Cells.fill, s.cells.get_set_self hlt]⟩

/-- A task that comes to wait for a cell from a stage at a cell has waited for it before. -/
theorem Seeks.waits {reader : Reader} (h : Seeks s id st t (.cell v n reader))
    (hc : st.cell? ≠ none) : st = .cell v n reader := by
  cases h with
  | nothing same apart | forget w here forgotten apart => cases apart
  | want w r wanted goal free => exact (hc free).elim
  | queue w m r here requested same => exact same.symm
  | ask w m r here requested asks => cases asks
  | filled w m r here settings value same goal => cases r <;> cases goal
  | fill m r x here fills goal => cases r <;> cases goal

/-- The editor is asked for settings by tasks at a cell. -/
theorem Moves.of_configuration {plan : Return} (h : Moves s id st t next)
    (hn : next = .calling (.configuration u) plan) : ∃ n reader, st = .cell u n reader := by
  have resumed : ∀ {v : Session} {p : Plan}, ¬ Resumes v p t next := by
    intro v p hr
    cases hr with
    | replay p es owner r schedule handed t next begins => cases begins <;> simp [tell] at hn
    | _ => simp [tell] at hn
  cases h with
  | start r idle t next begins => cases begins <;> simp [tell] at hn
  | keep v c p turn store changed t next resumes => exact (resumed resumes).elim
  | shown p x t next resumes => exact (resumed resumes).elim
  | told p x t next resumes => exact (resumed resumes).elim
  | configured n reader x => cases reader <;> cases hn
  | filled v n reader settings value => cases reader <;> cases hn
  | ask v n reader empty turn =>
    cases hn
    exact ⟨n, reader, rfl⟩
  | _ => simp [tell] at hn

theorem Hears.asks? (h : Hears st next) : next.asks? = st.asks? := by
  cases h with
  | nothing | linted => rfl
  | answer c plan x => exact asks?_back c plan x

theorem Hears.cell? (h : Hears st next) : next.cell? = st.cell? := by
  cases h with
  | nothing | linted => rfl
  | answer c plan x => exact cell?_back c plan x

theorem Taken.snoc (h : (after as).Taken n) (kept : ∀ k, Action.drop k ∉ as ++ [a]) :
    (after (as ++ [a])).Taken n := by
  have sole := soleAsker_after as fun k hk => kept k (List.mem_append_left _ hk)
  rcases h with hv | ⟨k, st, found, hk⟩
  · obtain ⟨settings, hv⟩ := Option.ne_none_iff_exists'.mp hv
    left
    rw [after_snoc, sole.keeps_value (step_act (after as) a) hv]
    simp
  · have hd : a ≠ .drop k := fun hd => kept k (by simp [hd])
    rcases advance_or_hears found hd with ⟨t, next, rfl, goes⟩ | ⟨next, fn, hh⟩
    · rcases goes.moves.leaves_cell (placed_after as) found (cell?_of_asks? hk) with
        ⟨quiet, _⟩ | ⟨settings, _, _, hv⟩
      · rw [hk] at quiet
        cases quiet
      · left
        rw [goes.cells, hv]
        simp
    · exact Or.inr ⟨k, next, fn, hh.asks?.trans hk⟩

/-- What is seen of a task that goes on, but for the waking of others, is seen of its next stage. -/
theorem goesOn_of_seen {e : Effect} (h : e ∈ ((after as).act (.advance k)).2)
    (he : ∀ l, e ≠ .woken l) : ∃ st t next, GoesOn as k st t next ∧ e ∈ seen k next := by
  cases found : (after as).tasks.get? k with
  | none => simp [act, found] at h
  | some st =>
    cases ready : (after as).canGoOn k st with
    | false => simp [act, found, ready] at h
    | true =>
      refine ⟨st, _, _, goesOn_of_ready found ready, ?_⟩
      rw [act_advance found ready] at h
      rcases List.mem_append.mp h with hw | hs
      · obtain ⟨l, _, rfl⟩ := List.mem_map.mp hw
        exact (he l rfl).elim
      · exact hs

theorem before_or_eq {bs run : List Action} {b : Action} (ha : as ++ [a] <+: run)
    (hb : bs ++ [b] <+: run) : as ++ [a] <+: bs ∨ bs ++ [b] <+: as ∨ as = bs ∧ a = b := by
  rcases List.prefix_or_prefix_of_prefix ha hb with h | h
  · rcases List.prefix_concat_iff.mp h with he | hp
    · obtain ⟨rfl, hx⟩ := List.append_inj' he rfl
      exact Or.inr (Or.inr ⟨rfl, List.singleton_inj.mp hx⟩)
    · exact Or.inl hp
  · rcases List.prefix_concat_iff.mp h with he | hp
    · obtain ⟨rfl, hx⟩ := List.append_inj' he rfl
      exact Or.inr (Or.inr ⟨rfl, (List.singleton_inj.mp hx).symm⟩)
    · exact Or.inr (Or.inl hp)

theorem Taken.along (h : (after before).Taken n) (kept : ∀ k, Action.drop k ∉ before ++ rest) :
    (after (before ++ rest)).Taken n := by
  apply kept_along (P := fun as => (after as).Taken n) h
  intro earlier a later he taken
  have hp : before ++ earlier ++ [a] <+: before ++ rest := ⟨later, by simp [he]⟩
  exact taken.snoc fun k hk => kept k (hp.subset hk)

theorem value_along (h : ((after before).cells.get n).value = some settings)
    (kept : ∀ k, Action.drop k ∉ before ++ rest) :
    ((after (before ++ rest)).cells.get n).value = some settings := by
  apply kept_along (P := fun as => ((after as).cells.get n).value = some settings) h
  intro earlier a later he hv
  have hp : before ++ earlier <+: before ++ rest := ⟨a :: later, by simp [he]⟩
  have sole := soleAsker_after (before ++ earlier) fun k hk => kept k (hp.subset hk)
  rw [after_snoc]
  exact sole.keeps_value (step_act _ a) hv

/-- A call for the settings of a document: the task that makes it, for itself or for a pass, and
what was done before. -/
structure SettingsCall where
  task : Nat
  start : List Action

namespace SettingsCall

/-- The call has been made for the settings of `u`, and has not returned. -/
inductive UnderWay (u : Url) (c : SettingsCall) : List Action → Prop
  | made (st : Stage) (found : (after c.start).tasks.get? c.task = some st)
      (apart : st.cell? = none) (n : Nat) (reader : Reader)
      (wants : (after (c.start ++ [Action.advance c.task])).tasks.get? c.task =
        some (.cell u n reader)) : UnderWay u c (c.start ++ [Action.advance c.task])
  | goesOn (as : List Action) (a : Action) (call : UnderWay u c as) (st : Stage)
      (found : (after (as ++ [a])).tasks.get? c.task = some st) (there : st.cell? ≠ none) :
      UnderWay u c (as ++ [a])

/-- The call puts a question to the editor after `as`. -/
structure Asks (u : Url) (c : SettingsCall) (as : List Action) : Prop where
  call : c.UnderWay u as
  called : .called c.task (.configuration u) ∈ ((after as).act (.advance c.task)).2

/-- The call returns the settings after `as`, to who made it or to the pass for which it was
made. -/
structure Returns (u : Url) (c : SettingsCall) (settings : Settings) (as : List Action) : Prop where
  call : c.UnderWay u as
  given : .finished c.task (.settings settings) ∈ ((after as).act (.advance c.task)).2 ∨
    ∃ p, (after (as ++ [Action.advance c.task])).tasks.get? c.task = some (.linting p settings)

/-- The call is made while `during` is done, after `before`. -/
structure MadeIn (before during : List Action) (c : SettingsCall) : Prop where
  since : before <+: c.start
  within : c.start ++ [Action.advance c.task] <+: before ++ during

variable {c d : SettingsCall}

/-- A call is made for the cell that the document has then, and stays at it. -/
theorem UnderWay.cell (h : c.UnderWay u as) :
    c.start ++ [Action.advance c.task] <+: as ∧
    ∃ n, (after (c.start ++ [Action.advance c.task])).cells.current.get? u = some n ∧
      ∃ st, (after as).tasks.get? c.task = some st ∧ st.cell? = some n := by
  induction h with
  | made st found apart n reader wants =>
    refine ⟨List.prefix_refl _, n, ?_, _, wants, rfl⟩
    have wants' := wants
    rw [after_snoc] at wants'
    cases (step_act (after c.start) _).arises wants' with
    | stays a found' =>
      rw [found, Option.some.injEq] at found'
      rw [found'] at apart
      cases apart
    | moved old t found' ready moves result sight =>
      rw [found, Option.some.injEq] at found'
      rw [after_snoc, result, cells_put]
      rcases moves.seeks.wants with hc | rfl
      · exact hc
      · rw [found'] at apart
        cases apart
  | goesOn as a call st found there ih =>
    obtain ⟨hp, n, hc, old, hold, hn⟩ := ih
    refine ⟨hp.trans (List.prefix_append ..), n, hc, st, found, ?_⟩
    rw [after_snoc] at found
    cases (step_act (after as) a).arises found with
    | stays a found' =>
      rw [hold, Option.some.injEq] at found'
      rw [← found', hn]
    | called job fresh =>
      rw [fresh] at there
      exact (there rfl).elim
    | moved old' t found' ready moves result sight =>
      rw [hold, Option.some.injEq] at found'
      subst found'
      rcases moves.leaves_cell (placed_after as) hold hn with ⟨_, hs⟩ | ⟨settings, reader, rfl, _⟩
      · exact hs
      · rw [cell?_handOver] at there
        exact (there rfl).elim
    | answered call plan x found' back =>
      rw [hold, Option.some.injEq] at found'
      rw [back, cell?_back call, ← found', hn]
    | linted p settings found' ended =>
      rw [ended] at there
      exact (there rfl).elim

/-- A task is at a cell in a call for the settings of the document for which it wants the cell. -/
theorem exists_underWay (found : (after as).tasks.get? k = some st) (there : st.cell? ≠ none) :
    ∃ u c, c.task = k ∧ UnderWay u c as ∧ ∀ v n reader, st = .cell v n reader → v = u := by
  induction as using List.reverseRecOn generalizing st with
  | nil => cases found
  | append_singleton as a ih =>
    have goes : ∀ old, (after as).tasks.get? k = some old → old.cell? ≠ none →
        (∀ v n reader, st = .cell v n reader → old = .cell v n reader) →
        ∃ u c, c.task = k ∧ UnderWay u c (as ++ [a]) ∧
          ∀ v n reader, st = .cell v n reader → v = u := by
      intro old hold hc same
      obtain ⟨u, c, rfl, call, hu⟩ := ih hold hc
      exact ⟨u, c, rfl, .goesOn as a call st found there,
        fun v n reader hst => hu v n reader (same v n reader hst)⟩
    have found' := found
    rw [after_snoc] at found'
    cases (step_act (after as) a).arises found' with
    | stays a hold => exact goes st hold there fun _ _ _ he => he
    | called job fresh =>
      rw [fresh] at there
      exact (there rfl).elim
    | linted p settings hold ended =>
      rw [ended] at there
      exact (there rfl).elim
    | answered call plan x hold back =>
      refine goes _ hold ?_ ?_
      · rwa [back, cell?_back call] at there
      · intro v n reader he
        rw [back] at he
        cases he
    | moved old t hold ready moves result sight =>
      cases hc : old.cell? with
      | none =>
        cases moves.seeks with
        | nothing same apart | forget v here forgotten apart => exact (there apart).elim
        | want v reader wanted goal free =>
          rw [goal] at found
          refine ⟨v, ⟨k, as⟩, rfl, .made old hold hc _ reader found, ?_⟩
          intro w n reader' he
          rw [goal] at he
          cases he
          rfl
        | queue v n reader here | ask v n reader here | filled v n reader here
        | fill n reader x here =>
          rw [here] at hc
          cases hc
      | some n =>
        have hne : old.cell? ≠ none := by simp [hc]
        refine goes old hold hne ?_
        rintro v m reader rfl
        exact moves.seeks.waits hne

/-- Whenever the editor is asked for the settings of a document, a call for them asks it. -/
theorem exists_asks (h : .called k (.configuration u) ∈ ((after as).act (.advance k)).2) :
    ∃ c : SettingsCall, c.task = k ∧ c.Asks u as := by
  obtain ⟨st, t, next, goes, hs⟩ := goesOn_of_seen h nofun
  have hn : ∃ plan, next = .calling (.configuration u) plan := by
    cases next with
    | calling c plan =>
      simp only [seen, List.mem_singleton, Effect.called.injEq, true_and] at hs
      exact ⟨plan, by rw [hs]⟩
    | _ => simp [seen] at hs
  obtain ⟨plan, hn⟩ := hn
  obtain ⟨n, reader, rfl⟩ := goes.moves.of_configuration hn
  obtain ⟨v, c, rfl, call, hv⟩ := exists_underWay goes.found (by simp [Stage.cell?])
  have he := hv u n reader rfl
  subst he
  exact ⟨c, rfl, call, h⟩

/-- A call that asks the editor does so for an empty cell, whose turn is free. -/
theorem Asks.first (h : c.Asks u as) (found : (after as).tasks.get? c.task = some st)
    (hn : st.cell? = some n) (sole : SoleAsker (after as)) :
    ¬ (after as).Taken n ∧ (after (as ++ [Action.advance c.task])).Taken n := by
  obtain ⟨st', t, next, goes, hs⟩ := goesOn_of_seen h.called nofun
  have hst : st' = st := Option.some.inj (goes.found.symm.trans found)
  subst hst
  cases goes.moves.seeks with
  | nothing same apart free | want v reader wanted goal free =>
    rw [hn] at free
    cases free
  | forget v here forgotten apart =>
    rw [here] at hn
    cases hn
  | queue v m reader here requested same =>
    rw [same, here] at hs
    cases hs
  | filled v m reader here settings value same goal | fill m reader x here fills goal =>
    rw [goal] at hs
    cases reader <;> simp [handOver, seen] at hs
  | ask v m reader here requested asks empty turn =>
    subst here
    cases hn
    constructor
    · intro taken
      rcases taken with hv | ⟨k, hk⟩
      · exact hv empty
      · rw [← sole.holder, sole.free_of_turn found rfl turn] at hk
        cases hk
    · have fn : (after (as ++ [Action.advance c.task])).tasks.get? c.task = some next := by
        apply goes.self
        simp [asks]
      refine Or.inr ⟨c.task, next, fn, ?_⟩
      rw [asks]
      rfl

theorem Returns.value (h : c.Returns u settings as)
    (found : (after as).tasks.get? c.task = some st) (hn : st.cell? = some n) :
    ((after (as ++ [Action.advance c.task])).cells.get n).value = some settings := by
  have left : ∀ t next, GoesOn as c.task st t next → next.cell? = none →
      (∀ x reader, next = handOver x reader → x = settings) →
      ((after (as ++ [Action.advance c.task])).cells.get n).value = some settings := by
    intro t next goes hc hx
    rcases goes.moves.leaves_cell (placed_after as) found hn with ⟨_, hs⟩ | ⟨x, reader, he, hv⟩
    · rw [hc] at hs
      cases hs
    · rw [goes.cells, hv, hx x reader he]
  rcases h.given with hf | ⟨p, hp⟩
  · obtain ⟨st', t, next, goes, hs⟩ := goesOn_of_seen hf nofun
    have hst : st' = st := Option.some.inj (goes.found.symm.trans found)
    subst hst
    have hd : next = .done (.settings settings) := by
      cases next <;> simp_all [seen]
    apply left t next goes
    · rw [hd]
      rfl
    · intro x reader he
      rw [hd] at he
      cases reader <;> cases he
      rfl
  · have hp' := hp
    rw [after_snoc] at hp'
    cases (step_act (after as) _).arises hp' with
    | stays a found' =>
      rw [found, Option.some.injEq] at found'
      rw [found'] at hn
      cases hn
    | moved old t found' ready moves result sight =>
      rw [found, Option.some.injEq] at found'
      subst found'
      have goes := goesOn_of_ready found ready
      have hd := goes.eq_next hp
      apply left _ _ goes
      · rw [← hd]
        rfl
      · intro x reader he
        rw [← hd] at he
        cases reader <;> cases he
        rfl

theorem UnderWay.goes_on (h : c.UnderWay u as) (kept : a ≠ .drop c.task) :
    c.UnderWay u (as ++ [a]) ∨ a = .advance c.task ∧ ∃ settings, c.Returns u settings as := by
  obtain ⟨_, n, _, st, found, hn⟩ := h.cell
  rcases advance_or_hears found kept with ⟨t, next, rfl, goes⟩ | ⟨next, fn, hh⟩
  · have leaves := goes.moves.leaves_cell (placed_after as) found hn
    rcases leaves with ⟨_, hc⟩ | ⟨settings, reader, he, _⟩
    · have fn : (after (as ++ [Action.advance c.task])).tasks.get? c.task = some next := by
        apply goes.self
        rintro v rfl
        cases hc
      exact Or.inl (.goesOn as _ h next fn (by simp [hc]))
    · refine Or.inr ⟨rfl, settings, h, ?_⟩
      cases reader with
      | pass p =>
        refine Or.inr ⟨p, ?_⟩
        rw [← show next = .linting p settings from he]
        apply goes.self
        rintro v rfl
        cases he
      | caller =>
        left
        apply goes.sight
        rw [he]
        exact List.mem_singleton_self _
  · exact Or.inl (.goesOn as a h next fn (by simp [hh.cell?, hn]))

end SettingsCall

theorem Undisturbed.right (h : Undisturbed u before (during ++ rest)) :
    Undisturbed u (before ++ during) rest := by
  intro earlier a later he
  rw [List.append_assoc]
  exact h (during ++ earlier) a later (by rw [he, List.append_assoc])

namespace SettingsCall

variable {c d : SettingsCall} {run bs : List Action}

/-- The document has the cell of a call as long as its settings are not discarded. -/
theorem MadeIn.current (h : c.MadeIn before during) (held : Undisturbed u before during)
    (hn : (after (c.start ++ [Action.advance c.task])).cells.current.get? u = some n) :
    (after (before ++ during)).cells.current.get? u = some n := by
  obtain ⟨earlier, hs⟩ := h.since
  obtain ⟨later, hw⟩ := h.within
  have hd : during = (earlier ++ [Action.advance c.task]) ++ later := by
    rw [← hs] at hw
    simpa using hw.symm
  have hb : c.start ++ [Action.advance c.task] =
      before ++ (earlier ++ [Action.advance c.task]) := by
    rw [← hs, List.append_assoc]
  rw [hb] at hn
  rw [hd, ← List.append_assoc]
  rw [hd] at held
  exact held.right.current hn

/-- Two calls that are made before the settings are discarded again are at one cell. -/
theorem MadeIn.same_cell (hc : c.MadeIn before during) (hd : d.MadeIn before during)
    (held : Undisturbed u before during) (hcu : c.UnderWay u as) (hdu : d.UnderWay u bs) :
    ∃ n, (∃ st, (after as).tasks.get? c.task = some st ∧ st.cell? = some n) ∧
      ∃ st, (after bs).tasks.get? d.task = some st ∧ st.cell? = some n := by
  obtain ⟨_, n, hn, hcs⟩ := hcu.cell
  obtain ⟨_, m, hm, hds⟩ := hdu.cell
  have he := (hc.current held hn).symm.trans (hd.current held hm)
  cases he
  exact ⟨n, hcs, hds⟩

theorem Asks.not_before (hc : c.Asks u as) (hd : d.Asks u bs)
    (hcs : (after as).tasks.get? c.task = some st) (hcn : st.cell? = some n)
    (hds : (after bs).tasks.get? d.task = some next) (hdn : next.cell? = some n)
    (kept : ∀ k, Action.drop k ∉ bs) : ¬ as ++ [Action.advance c.task] <+: bs := by
  intro ⟨later, he⟩
  subst he
  have sole : SoleAsker (after as) :=
    soleAsker_after as fun k hk => kept k (List.mem_append_left _ (List.mem_append_left _ hk))
  have taken := (hc.first hcs hcn sole).2.along kept
  exact (hd.first hds hdn (soleAsker_after _ kept)).1 taken

theorem Returns.value_at_end (h : c.Returns u settings as)
    (hr : as ++ [Action.advance c.task] <+: run) (kept : ∀ k, Action.drop k ∉ run)
    (found : (after as).tasks.get? c.task = some st) (hn : st.cell? = some n) :
    ((after run).cells.get n).value = some settings := by
  obtain ⟨later, rfl⟩ := hr
  exact value_along (h.value found hn) kept

theorem Returns.fetched (h : c.Returns u settings as) (past : List Action)
    (hd : Discards u (after past) a) (hp : past ++ [a] <+: c.start) :
    ∃ f : Fetch, f.About u ∧ f.settings = settings ∧ past ++ [a] <+: f.asked ∧
      f.history ++ [Action.advance f.task] <+: as ++ [Action.advance c.task] := by
  obtain ⟨hs, n, hn, st, found, hc⟩ := h.call.cell
  obtain ⟨v, f, rest, about, hf, claims, he⟩ := (traced_after _).value n settings (h.value found hc)
  have hr : f.history ++ [Action.advance f.task] <+: as ++ [Action.advance c.task] :=
    ⟨rest, by simp [he]⟩
  have ha : f.asked <+: as ++ [Action.advance c.task] :=
    (List.prefix_append ..).trans ((List.prefix_append f.history _).trans hr)
  have hstart : c.start ++ [Action.advance c.task] <+: as ++ [Action.advance c.task] :=
    hs.trans (List.prefix_append ..)
  have hv : v = u := eq_of_claims_prefix ha hstart claims (Or.inl hn)
  subst hv
  refine ⟨f, about, hf, ?_, hr⟩
  have hpr : past ++ [a] <+: as ++ [Action.advance c.task] :=
    hp.trans ((List.prefix_append ..).trans hstart)
  rcases List.prefix_or_prefix_of_prefix hpr ha with hpa | ⟨later, hl⟩
  · exact hpa
  · -- Then the question would have been put for a cell that is older than the call's.
    have hold : n < (after f.asked).cells.all.length := (placed_after f.asked).lt_of_claims claims
    have hle := length_cells_le f.asked later
    obtain ⟨between, hb⟩ := hp.trans (List.prefix_append c.start [.advance c.task])
    have hnone : (after (past ++ [a])).cells.current.get? v = none := by
      rw [after_snoc]
      exact current_of_discards hd
    rw [← hb] at hn
    have hnew := length_cells_le_of_current hnone hn
    rw [hl] at hle
    omega

theorem UnderWay.along (h : c.UnderWay u as) (kept : ∀ k, Action.drop k ∉ as ++ rest) :
    c.UnderWay u (as ++ rest) ∨
    ∃ bs settings, bs ++ [Action.advance c.task] <+: as ++ rest ∧ c.Returns u settings bs := by
  apply kept_along (P := fun run => c.UnderWay u run ∨
    ∃ bs settings, bs ++ [Action.advance c.task] <+: run ∧ c.Returns u settings bs) (Or.inl h)
  intro earlier a later he hu
  have hp : as ++ earlier ++ [a] <+: as ++ rest := ⟨later, by simp [he]⟩
  rcases hu with hu | ⟨bs, settings, hb, returns⟩
  · have hd : a ≠ .drop c.task := fun hd => kept c.task (hp.subset (by simp [hd]))
    rcases hu.goes_on hd with hn | ⟨rfl, settings, hr⟩
    · exact Or.inl hn
    · exact Or.inr ⟨_, settings, List.prefix_refl _, hr⟩
  · exact Or.inr ⟨bs, settings, hb.trans (List.prefix_append ..), returns⟩

end SettingsCall

/-- No task can go on, and no question about the settings of the document is with the editor. -/
def Rests (u : Url) (s : Session) : Prop :=
  ∀ k st, s.tasks.get? k = some st → s.canGoOn k st = false ∧
    ∀ n reader, st ≠ .calling (.configuration u) (.configured n reader)

/-- A call waits for nothing but an answer of the editor. -/
theorem SettingsCall.UnderWay.not_rests {c : SettingsCall} (h : c.UnderWay u as)
    (kept : ∀ k, Action.drop k ∉ as) : ¬ Rests u (after as) := by
  intro rests
  obtain ⟨hs, n, hn, st, found, hc⟩ := h.cell
  have sole := soleAsker_after as kept
  have asking : ∃ k, (after as).IsAsking k n := by
    unfold Stage.cell? at hc
    split at hc <;> cases hc
    · -- The task waits, so that another one has the turn.
      have stuck := (rests _ _ found).1
      simp only [canGoOn, Bool.not_eq_false', List.contains_iff_mem] at stuck
      cases hh : ((after as).cells.get n).turns.holder with
      | none =>
        rw [(sole.orderly n).idle hh] at stuck
        cases stuck
      | some k => exact ⟨k, (sole.holder k n).mp hh⟩
    · exact ⟨c.task, _, found, rfl⟩
    · exact ⟨c.task, _, found, rfl⟩
  obtain ⟨k, st', there, hk⟩ := asking
  unfold Stage.asks? at hk
  split at hk <;> cases hk
  · obtain ⟨v, asked, unanswered, he, claims, rfl, _⟩ := (traced_after as).asks k n _ _ there
    have ha : asked <+: as := ⟨_, he.symm⟩
    have hv := eq_of_claims_prefix ha hs claims (Or.inl hn)
    subst hv
    exact (rests k _ there).2 n _ rfl
  · cases (rests k _ there).1

/-- The editor is asked for the settings of a document by calls for them. From one time that they
are discarded to the next it is asked at most once by the calls that are made in between, and these
all return the same settings. What a call returns has been asked for after the settings were last
discarded before it was made, whatever was asked before and is answered later. And every call
returns when the editor has answered what it is asked. -/
theorem one_fetch_per_generation (u : Url) (before during rest : List Action)
    (kept : ∀ k, Action.drop k ∉ before ++ during ++ rest) (held : Undisturbed u before during) :
    (∀ k as, .called k (.configuration u) ∈ ((after as).act (.advance k)).2 →
      ∃ c : SettingsCall, c.task = k ∧ c.Asks u as) ∧
    (∀ (c d : SettingsCall) as bs, c.MadeIn before during → d.MadeIn before during →
      c.Asks u as → d.Asks u bs → as ++ [Action.advance c.task] <+: before ++ during ++ rest →
      bs ++ [Action.advance d.task] <+: before ++ during ++ rest → as = bs ∧ c.task = d.task) ∧
    (∀ (c d : SettingsCall) x y as bs, c.MadeIn before during → d.MadeIn before during →
      c.Returns u x as → d.Returns u y bs →
      as ++ [Action.advance c.task] <+: before ++ during ++ rest →
      bs ++ [Action.advance d.task] <+: before ++ during ++ rest → x = y) ∧
    (∀ past a (c : SettingsCall) settings as, Discards u (after past) a → past ++ [a] <+: c.start →
      c.Returns u settings as → as ++ [Action.advance c.task] <+: before ++ during ++ rest →
      ∃ f : Fetch, f.About u ∧ f.settings = settings ∧ past ++ [a] <+: f.asked ∧
        f.history ++ [Action.advance f.task] <+: as ++ [Action.advance c.task]) ∧
    (∀ c : SettingsCall, c.UnderWay u (c.start ++ [Action.advance c.task]) →
      c.start ++ [Action.advance c.task] <+: before ++ during ++ rest →
      Rests u (after (before ++ during ++ rest)) →
      ∃ settings as, as ++ [Action.advance c.task] <+: before ++ during ++ rest ∧
        c.Returns u settings as) := by
  generalize hrun : before ++ during ++ rest = run at kept ⊢
  have hkept : ∀ {p}, p <+: run → ∀ k, Action.drop k ∉ p := fun hp k hk => kept k (hp.subset hk)
  refine ⟨fun _ _ => SettingsCall.exists_asks, ?_, ?_, ?_, ?_⟩
  · intro c d as bs hc hd ha hb hca hdb
    obtain ⟨n, ⟨st, hcs, hcn⟩, next, hds, hdn⟩ := hc.same_cell hd held ha.call hb.call
    have hpa : as <+: run := (List.prefix_append ..).trans hca
    have hpb : bs <+: run := (List.prefix_append ..).trans hdb
    rcases before_or_eq hca hdb with hlt | hgt | ⟨he, ht⟩
    · exact (ha.not_before hb hcs hcn hds hdn (hkept hpb) hlt).elim
    · exact (hb.not_before ha hds hdn hcs hcn (hkept hpa) hgt).elim
    · exact ⟨he, Action.advance.inj ht⟩
  · intro c d x y as bs hc hd hx hy hca hdb
    obtain ⟨n, ⟨st, hcs, hcn⟩, next, hds, hdn⟩ := hc.same_cell hd held hx.call hy.call
    have hxv := hx.value_at_end hca kept hcs hcn
    have hyv := hy.value_at_end hdb kept hds hdn
    exact Option.some.inj (hxv.symm.trans hyv)
  · intro past a c settings as hd hp hr _
    exact hr.fetched past hd hp
  · intro c hu hs rests
    obtain ⟨later, rfl⟩ := hs
    rcases hu.along kept with hu | ⟨as, settings, hp, hr⟩
    · exact (hu.not_rests kept rests).elim
    · exact ⟨settings, as, hp, hr⟩

theorem undisturbed_of_kept (kept : ∀ a ∈ during, ¬ a.Forgets u)
    (unclosed : ∀ l, .call l (.close u) ∉ before ++ during) : Undisturbed u before during := by
  intro earlier a later he hd
  cases a with
  | invalidate v => exact kept (.invalidate v) (by simp [he]) hd
  | advance k =>
    have uncalled : ∀ l, .call l (.close u) ∉ before ++ earlier := by
      intro l hl
      apply unclosed l
      rw [he, ← List.append_assoc]
      exact List.mem_append_left _ hl
    exact not_fresh_after uncalled k hd
  | _ => exact hd

/-- A call for the settings of a document is made, and its question is with the editor. -/
def untilFetching (u : Url) : List Action :=
  [.openDocument u ⟨"guys", 1, .plainText⟩, .call 0 (.settings u), .advance 0, .advance 0]

def untilInvalidated (u : Url) : List Action :=
  untilFetching u ++ [.invalidate (some u)]

/-- The document is linted, and there is another call for its settings. The pass asks the editor. -/
def sinceInvalidated (u : Url) : List Action :=
  [.call 1 (.validate ⟨u, { format := true }⟩), .advance 1, .answer 1 {}, .call 2 (.settings u),
    .advance 2, .advance 1, .advance 1, .advance 2]

/-- The later question is answered first, and then all go on to their ends. -/
def untilAllReturned : List Action :=
  [.answer 1 { configuration := some (.obj [("noBinary", .bool true)]) }, .advance 1, .answer 0 {},
    .advance 0, .advance 2, .linted 1, .advance 1, .advance 1, .answer 1 {}, .advance 1,
    .answer 1 {}, .advance 1]

/-- A call that is made after the settings have been invalidated does not get what was asked before,
though that is answered while the call is under way. -/
theorem fetched_anew_after_invalidation :
    (∀ k, Action.drop k ∉ untilInvalidated notes ++ sinceInvalidated notes ++ untilAllReturned) ∧
    Undisturbed notes (untilInvalidated notes) (sinceInvalidated notes) ∧
    ∃ (c : SettingsCall) (settings : Settings) (as : List Action) (f : Fetch),
      c.task = 2 ∧ c.MadeIn (untilInvalidated notes) (sinceInvalidated notes) ∧
      c.Returns notes settings as ∧ f.About notes ∧ f.settings = settings ∧
      untilInvalidated notes <+: f.asked := by
  have kept : ∀ k, Action.drop k ∉
      untilInvalidated notes ++ sinceInvalidated notes ++ untilAllReturned := by
    simp [untilInvalidated, untilFetching, sinceInvalidated, untilAllReturned]
  have held : Undisturbed notes (untilInvalidated notes) (sinceInvalidated notes) := by
    apply undisturbed_of_kept
    · simp [sinceInvalidated, Action.Forgets]
    · simp [untilInvalidated, untilFetching, sinceInvalidated]
  let c : SettingsCall := ⟨2, untilInvalidated notes ++ (sinceInvalidated notes).take 4⟩
  have since : untilInvalidated notes <+: c.start := List.prefix_append ..
  have within : c.start ++ [Action.advance c.task] <+:
      untilInvalidated notes ++ sinceInvalidated notes :=
    ⟨(sinceInvalidated notes).drop 5, rfl⟩
  have found : (after c.start).tasks.get? c.task = some (.fresh (.settings notes)) := rfl
  have wants : (after (c.start ++ [Action.advance c.task])).tasks.get? c.task =
      some (.cell notes 1 .caller) := rfl
  have made : c.UnderWay notes (c.start ++ [Action.advance c.task]) :=
    .made _ found rfl 1 .caller wants
  have rests : Rests notes
      (after (untilInvalidated notes ++ sinceInvalidated notes ++ untilAllReturned)) := by
    have hn : (after (untilInvalidated notes ++ sinceInvalidated notes ++
        untilAllReturned)).tasks.entries.length = 0 := by
      decide +kernel
    intro k st hk
    rw [Keyed.get?_of_no_entries hn] at hk
    cases hk
  obtain ⟨_, _, _, fetched, returns⟩ :=
    one_fetch_per_generation notes _ _ untilAllReturned kept held
  obtain ⟨settings, as, hp, hr⟩ := returns c made (within.trans (List.prefix_append ..)) rests
  obtain ⟨f, about, hf, ha, _⟩ := fetched (untilFetching notes) (.invalidate (some notes)) c
    settings as (Or.inr rfl) since hr hp
  exact ⟨kept, held, c, settings, as, f, rfl, ⟨since, within⟩, hr, about, hf, ha⟩

end Considerate.Session
