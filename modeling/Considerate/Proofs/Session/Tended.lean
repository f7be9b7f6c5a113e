import Considerate.Proofs.Session.Regular
import Considerate.Proofs.Session.Turns

namespace Considerate

def Stage.tellsEnd : Stage → Bool
  | .calling _ (.told (.release _ _)) | .back (.told (.release _ _)) _ => true
  | _ => false

/-- Whether a task tells the editor how far it is. -/
def Stage.tells : Stage → Bool
  | .calling _ (.told _) | .back (.told _) _ => true
  | _ => false

namespace Session

variable {s t : Session} {id k : Nat} {st next : Stage} {u : Url} {p : Pass} {as : List Action}
  {a : Action}

/-- A pass that has found no document, or tells its end: it stores nothing any more. -/
def Spent (p : Pass) (st : Stage) : Prop := p.document = none ∨ st.tellsEnd = true

theorem tells_of_tellsEnd (h : st.tellsEnd = true) : st.tells = true := by
  unfold Stage.tellsEnd at h
  split at h
  · rfl
  · rfl
  · cases h

structure JustBegun (s t : Session) (next : Stage) (p : Pass) : Prop where
  document : p.document = s.documents.get? p.url
  ticket : p.ticket = s.schedule.lastTicket + 1
  owns : t.schedule.owns p.url p.ticket = true
  tells : p.document = none → next.tells = true

theorem Begins.justBegun {v : Session} {r : Request}
    (h : Begins v r (s.schedule.lastTicket + 1) t next) (documents : v.documents = s.documents)
    (owns : t.schedule.owns r.url (s.schedule.lastTicket + 1) = true)
    (hp : next.pass? = some p) : JustBegun s t next p := by
  cases h with
  | clear plain opened =>
    cases hp
    refine ⟨congrArg (·.get? r.url) documents, rfl, owns, ?_⟩
    intro absent
    rw [show t.documents.get? r.url = none from absent] at opened
    cases opened
  | announce silent =>
    cases hp
    exact ⟨congrArg (·.get? r.url) documents, rfl, owns, fun _ => rfl⟩

theorem Resumes.justBegun {q : Pass} {es : List Edit} (h : Resumes s (.release q es) t next)
    (hp : next.pass? = some p) : JustBegun s t next p := by
  cases h with
  | stale | free => cases hp
  | replay q es owner r schedule handed t next begins =>
    refine begins.justBegun rfl (Schedule.owns_iff.mpr ⟨⟨r.options, _⟩, ?_, rfl⟩) hp
    rw [begins.schedule, handed.url]
    exact handed.slot

/-- The pass that a task comes to is the one that it was at, up to its number, or it has just
begun. -/
theorem Trades.pass_cases (h : Trades s st t next) (hp : next.pass? = some p) :
    (∃ q, st.pass? = some q ∧ p.unnumbered = q.unnumbered ∧ t.schedule = s.schedule) ∨
    JustBegun s t next p := by
  cases h with
  | nothing begun same pass =>
    rw [hp, Option.map_some] at pass
    obtain ⟨q, hq, he⟩ := Option.map_eq_some_iff.mp pass.symm
    exact Or.inl ⟨q, hq, he.symm, same⟩
  | wait r here busy queued ended =>
    subst ended
    cases hp
  | start r here idle claimed v documents begins =>
    refine Or.inr (begins.justBegun documents (Schedule.owns_iff.mpr ⟨⟨r.options, _⟩, ?_, rfl⟩) hp)
    rw [claimed]
    exact Schedule.pending_claim_self ..
  | close v here cancelled holding => simp [Stage.holding?, hp] at holding
  | stale q here old same es ended =>
    subst ended
    cases hp
  | free q here owner empty freed es ended =>
    subst ended
    cases hp
  | replay q here owner r handed v documents begins =>
    refine Or.inr (begins.justBegun documents (Schedule.owns_iff.mpr ⟨⟨r.options, _⟩, ?_, rfl⟩) hp)
    rw [handed.url]
    exact handed.slot

/-- A pass that has found no document tells so and then its end, or it has handed the document over
to the next one. -/
theorem Moves.of_absent (h : Moves s id st t next) (hc : Course p st) (absent : p.document = none)
    (tells : st.tells = true) :
    t = s ∧ next = tell p .error (.release p []) ∨ ∃ es, Resumes s (.release p es) t next := by
  cases hc with
  | announcing | closing => cases h
  | announced x =>
    cases h with
    | told plan x t next resumes =>
      cases resumes with
      | absent q missing => exact Or.inl ⟨rfl, rfl⟩
      | gone q d found | want q d found =>
        rw [absent] at found
        cases found
  | closed es x =>
    cases h with
    | told plan x t next resumes => exact Or.inr ⟨es, resumes⟩
  | _ => cases tells

theorem Moves.of_tellsEnd (h : Moves s id st t next) (hc : Course p st)
    (he : st.tellsEnd = true) : ∃ es, Resumes s (.release p es) t next := by
  cases hc with
  | closing => cases h
  | closed es x =>
    cases h with
    | told plan x t next resumes => exact ⟨es, resumes⟩
  | _ => cases he

theorem tells_of_absent (as : List Action) (found : (after as).tasks.get? k = some st)
    (hp : st.pass? = some p) (absent : p.document = none) : st.tells = true := by
  induction as using List.reverseRecOn generalizing k st p with
  | nil => cases found
  | append_singleton as a ih =>
    rw [after_snoc] at found
    cases (step_act (after as) a).arises found with
    | stays a there => exact ih there hp absent
    | called job fresh =>
      subst fresh
      cases hp
    | moved old t there ready moves result sight =>
      rcases moves.trades.pass_cases hp with ⟨q, hq, he, _⟩ | begun
      · have hn : q.document = none := (congrArg Pass.document he).symm.trans absent
        rcases moves.of_absent (onCourse_after as there q hq) hn (ih there hq hn) with
          ⟨_, rfl⟩ | ⟨es, resumes⟩
        · rfl
        · exact (resumes.justBegun hp).tells absent
      · exact begun.tells absent
    | answered c plan x there back =>
      subst back
      rw [pass?_back c] at hp
      have ht := ih there hp absent
      cases plan with
      | told plan => rfl
      | _ => cases ht
    | linted q settings there ended =>
      subst ended
      cases hp
      cases ih there rfl absent

theorem Spent.tells (h : Spent p st) (found : (after as).tasks.get? k = some st)
    (hp : st.pass? = some p) : st.tells = true := by
  rcases h with absent | he
  · exact tells_of_absent as found hp absent
  · exact tells_of_tellsEnd he

theorem Moves.of_spent (h : Moves s id st t next) (hc : Course p st) (hs : Spent p st)
    (tells : st.tells = true) :
    t = s ∧ next = tell p .error (.release p []) ∨ ∃ es, Resumes s (.release p es) t next := by
  rcases hs with absent | he
  · exact h.of_absent hc absent tells
  · exact Or.inr (h.of_tellsEnd hc he)

theorem spent_back {c : Call} {plan : Return} (x : Answer) (h : Spent p (.calling c plan)) :
    Spent p (.back plan x) := by
  refine h.imp id fun he => ?_
  cases plan with
  | told plan => cases plan <;> first | rfl | cases he
  | _ => cases he

def Owned (u : Url) (s : Session) : Prop :=
  ∀ k st p, s.tasks.get? k = some st → st.pass? = some p → p.url = u →
    Spent p st ∨ s.schedule.owns u p.ticket = true

/-- The pass that a task comes to owns its document or is spent, if that was so before. -/
theorem Moves.owned (h : Moves s id st t next) (hc : OnCourse st)
    (ho : ∀ q, st.pass? = some q → q.url = p.url →
      Spent q st ∧ st.tells = true ∨ s.schedule.owns p.url q.ticket = true)
    (hp : next.pass? = some p) : Spent p next ∨ t.schedule.owns p.url p.ticket = true := by
  rcases h.trades.pass_cases hp with ⟨q, hq, he, same⟩ | begun
  · have ht : p.ticket = q.ticket := (congrArg Pass.ticket he :)
    rcases ho q hq (congrArg Pass.url he).symm with ⟨spent, tells⟩ | owns
    · rcases h.of_spent (hc q hq) spent tells with ⟨_, rfl⟩ | ⟨es, resumes⟩
      · exact Or.inl (Or.inr rfl)
      · exact Or.inr (resumes.justBegun hp).owns
    · right
      rw [same, ht]
      exact owns
  · exact Or.inr begun.owns

/-- Going on takes a document away from no other pass, unless the document is closed. -/
theorem Trades.owns_other {m : Nat} (h : Trades s st t next) (held : s.schedule.Held s.holds)
    (found : s.tasks.get? id = some st) (hc : st ≠ .fresh (.close u)) (hk : k ≠ id)
    (holds : s.holds k u m) (owns : s.schedule.owns u m = true) :
    t.schedule.owns u m = true := by
  have alone : ∀ p : Pass, st.pass? = some p → s.schedule.owns p.url p.ticket = true →
      u ≠ p.url := by
    rintro p hp owner rfl
    obtain ⟨slot, hm, rfl⟩ := Schedule.owns_iff.mp owns
    obtain ⟨slot', hn, he⟩ := Schedule.owns_iff.mp owner
    rw [hm, Option.some.injEq] at hn
    subst hn
    exact hk (held.apart k id _ _ _ holds (he ▸ holds_of_pass found hp rfl))
  cases h with
  | nothing begun same pass | stale p here old same es ended =>
    rw [same]
    exact owns
  | wait r here busy queued ended =>
    rw [queued]
    exact owns
  | start r here idle claimed v documents begins =>
    have hr : u ≠ r.url := by
      rintro rfl
      rw [Schedule.isPending_of_owns owns] at idle
      cases idle
    rw [claimed, Schedule.owns_congr (Schedule.pending_claim_ne _ hr)]
    exact owns
  | close v here cancelled holding =>
    have hv : u ≠ v := by
      rintro rfl
      exact hc here
    rw [cancelled, Schedule.owns_congr (Schedule.pending_cancel_ne _ hv)]
    exact owns
  | free p here owner empty freed es ended =>
    rw [freed, Schedule.owns_congr (Keyed.get?_erase_ne _ (alone p here owner))]
    exact owns
  | replay p here owner r handed v documents begins =>
    rw [Schedule.owns_congr (handed.others u (alone p here owner))]
    exact owns

theorem Owned.snoc (h : Owned u (after as)) (spares : a.Spares u)
    (unclosed : ∀ k, (after as).tasks.get? k ≠ some (.fresh (.close u))) :
    Owned u (after (as ++ [a])) := by
  intro k st p there hp hu
  have held := held_after as
  have hc : ∀ {k st}, (after as).tasks.get? k = some st → OnCourse st := onCourse_after as
  have tells : ∀ {k st p}, (after as).tasks.get? k = some st → st.pass? = some p → Spent p st →
      st.tells = true := fun found hp hs => hs.tells found hp
  rw [after_snoc] at there ⊢
  have hs := step_act (after as) a
  generalize after as = s at *
  generalize (s.act a).1 = t, (s.act a).2 = es at *
  cases hs with
  | known | rest | unheard | idle | gone | openDocument | invalidate => exact h k st p there hp hu
  | call id job new =>
    rw [schedule_put]
    rcases tasks_put_cases there with ⟨_, rfl⟩ | ⟨_, hk⟩
    · cases hp
    · exact h k st p hk hp hu
  | advance id old found ready t next moves =>
    rw [schedule_put]
    rcases tasks_put_cases there with ⟨_, rfl⟩ | ⟨hne, hk⟩
    · subst hu
      refine moves.owned (hc found) ?_ hp
      intro q hq hqu
      exact (h id old q found hq hqu).imp (fun hs => ⟨hs, tells found hq hs⟩) fun ho => ho
    · rw [moves.tasks] at hk
      refine (h k st p hk hp hu).imp_right fun owns => ?_
      refine moves.trades.owns_other held found ?_ hne (holds_of_pass hk hp hu) owns
      rintro rfl
      exact unclosed id found
  | answer id x c plan found =>
    rw [schedule_put]
    rcases tasks_put_cases there with ⟨_, rfl⟩ | ⟨_, hk⟩
    · rw [pass?_back c] at hp
      exact (h id _ p found hp hu).imp_left (spent_back x)
    · exact h k st p hk hp hu
  | linted id q settings found =>
    rw [schedule_put]
    rcases tasks_put_cases there with ⟨_, rfl⟩ | ⟨_, hk⟩
    · exact h id (.linting q settings) p found hp hu
    · exact h k st p hk hp hu
  | drop id old found => exact spares.elim
  | changeText v text version =>
    rcases changeText_cases s v text version with he | ⟨d, he⟩ <;> rw [he] at there ⊢ <;>
      exact h k st p there hp hu
  | reload files root =>
    rw [reload_eq] at there ⊢
    exact h k st p there hp hu

/-- The tasks that close the document are in the line for the store, and no pass for it stands before
them. -/
def Ahead (u : Url) (s : Session) : Prop :=
  ∀ k st, s.tasks.get? k = some st → st.Closes u →
    ∃ xs ys, s.turns.line = xs ++ k :: ys ∧ ∀ l ∈ xs, ∀ m, ¬ s.holds l u m

/-- No task is left that closes the document. -/
def Unclosed (u : Url) (s : Session) : Prop :=
  ∀ k st, s.tasks.get? k = some st → ¬ st.Closes u

theorem not_holds_of_closes (found : s.tasks.get? k = some st) (hc : st.Closes u) (v : Url)
    (m : Nat) : ¬ s.holds k v m := by
  rintro ⟨st', hs, hh⟩
  rw [found, Option.some.injEq] at hs
  subst hs
  cases hc <;> cases hh

theorem Ahead.not_fresh (h : Ahead u s) (inTurn : InTurn s) (k : Nat) :
    s.tasks.get? k ≠ some (.fresh (.close u)) := by
  intro hk
  obtain ⟨xs, ys, hl, _⟩ := h k _ hk .begin
  exact inTurn.not_mem hk rfl rfl (by simp [hl])

/-- When a pass for the document has its turn in the store, the closes have had theirs. -/
theorem Ahead.unclosed {m : Nat} (h : Ahead u s) (inTurn : InTurn s) (holds : s.holds id u m)
    (turn : (s.turns.request id).isHeldBy id = true) : Unclosed u s := by
  intro k st found hc
  obtain ⟨xs, ys, hl, hn⟩ := h k st found hc
  have held := Turns.holder_of_turn turn inTurn.orderly (by simp [hl])
  rcases Turns.line_pass_behind held hl with rfl | ⟨zs, rfl, _⟩
  · exact not_holds_of_closes found hc u m holds
  · exact hn id (by simp) m holds

theorem Moves.showing_of_purge {plan : Plan}
    (h : Moves s id (.store (.change u .purge plan)) t next)
    (turn : (s.turns.request id).isHeldBy id = true) : next.isShowing = true := by
  cases h with
  | queue a busy => cases turn.symm.trans busy
  | publish v c plan turn store ds changed => rfl
  | keep v c plan turn store changed t next resumes => cases congrArg Prod.snd changed

/-- A task that shows what it has changed keeps its ticket. -/
theorem Trades.holding_of_showing (h : Trades s st t next) (there : st.isAtStore = true)
    (showing : next.isShowing = true) : next.holding? = st.holding? := by
  cases h with
  | nothing begun same pass => exact holding?_of_unnumbered pass
  | wait r here | start r here | close v here =>
    subst here
    cases there
  | stale p here old same es ended | free p here owner empty freed es ended =>
    subst ended
    cases showing
  | replay p here owner r handed v documents begins =>
    rw [begins.not_showing] at showing
    cases showing

/-- A task that comes to close the document has closed it before. -/
theorem LintsOrCloses.closes (h : LintsOrCloses u s) (found : s.tasks.get? id = some st)
    (hs : OnCourse st) (moves : Moves s id st t next) (hc : next.Closes u) : st.Closes u := by
  have hn : next.subject? = some u := by cases hc <;> rfl
  by_cases ho : st.subject? = some u
  · rcases h id st found ho with hv | hc
    · rcases moves.trades.validates hv with (⟨r, rfl, _⟩ | ⟨p, hp, _⟩) | ⟨es, rfl⟩
      · cases hc
      · cases hc <;> cases hp
      · cases hc
    · exact hc
  · exact ((moves.keeps hs ho).2 hn).elim

theorem Ahead.move (h : Ahead u s) (inTurn : InTurn s) (found : s.tasks.get? id = some st)
    (moves : Moves s id st t next) (closes : next.Closes u → st.Closes u) :
    Ahead u (t.put id next) := by
  intro k st' hk hc
  have ht := moves.tasks
  obtain ⟨old, ho, hold⟩ : ∃ old, s.tasks.get? k = some old ∧ old.Closes u := by
    rcases tasks_put_cases hk with ⟨rfl, rfl⟩ | ⟨_, hk⟩
    · exact ⟨st, found, closes hc⟩
    · exact ⟨st', ht ▸ hk, hc⟩
  obtain ⟨xs, ys, hl, hn⟩ := h k old ho hold
  have leaves : s.turns.holder = some id → t.turns = s.turns.pass → k ≠ id →
      ∃ xs ys, (t.put id next).turns.line = xs ++ k :: ys ∧
        ∀ l ∈ xs, ∀ m, ¬ (t.put id next).holds l u m := by
    intro held passed hki
    rcases Turns.line_pass_behind held hl with hk | ⟨zs, rfl, hz⟩
    · exact (hki hk).elim
    · refine ⟨zs, ys, by rw [turns_put, passed, hz], ?_⟩
      intro l hlz m hh
      rw [holds_put ht] at hh
      rcases hh with ⟨hh, _⟩ | ⟨rfl, _⟩
      · exact hn l (by simp [hlz]) m hh
      · have hd := inTurn.orderly.once
        rw [hl] at hd
        simp [hlz] at hd
  have stays : t.turns = s.turns.request id → next.holding? = st.holding? →
      ∃ xs ys, (t.put id next).turns.line = xs ++ k :: ys ∧
        ∀ l ∈ xs, ∀ m, ¬ (t.put id next).holds l u m := by
    intro requested same
    obtain ⟨zs, hz⟩ := inTurn.orderly.line_request_behind id hl
    refine ⟨xs, zs, by rw [turns_put, requested, hz], ?_⟩
    intro l hlx m hh
    exact hn l hlx m ((holds_put_same ht found same l u m).mp hh)
  cases moves.queues with
  | apart same off quiet silent =>
    refine ⟨xs, ys, by rw [turns_put, same, hl], ?_⟩
    intro l hlx m hh
    rw [holds_put ht] at hh
    rcases hh with ⟨hh, _⟩ | ⟨rfl, _⟩
    · exact hn l hlx m hh
    · exact inTurn.not_mem found off quiet (by simp [hl, hlx])
  | waits there busy requested same => exact stays requested (by rw [same])
  | shows v c plan here turn requested showing off =>
    exact stays requested (moves.trades.holding_of_showing (by rw [here]; rfl) showing)
  | leaves there turn passed silent =>
    have held := Turns.holder_of_turn turn inTurn.orderly (by simp [hl])
    rw [Turns.request_of_holder held] at passed
    refine leaves held passed ?_
    rintro rfl
    rw [found, Option.some.injEq] at ho
    subst ho
    cases hold with
    | begin => cases there
    | purge => cases silent.symm.trans (moves.showing_of_purge turn)
  | returns showing passed silent =>
    refine leaves (inTurn.showing id st found showing) passed ?_
    rintro rfl
    rw [found, Option.some.injEq] at ho
    subst ho
    cases hold <;> cases showing

theorem Ahead.snoc (h : Ahead u (after as)) (about : LintsOrCloses u (after as))
    (spares : a.Spares u) : Ahead u (after (as ++ [a])) := by
  have inTurn := inTurn_after as
  have hc : ∀ {k st}, (after as).tasks.get? k = some st → OnCourse st := onCourse_after as
  rw [after_snoc]
  have hs := step_act (after as) a
  generalize after as = s at *
  generalize (s.act a).1 = t, (s.act a).2 = es at *
  have same : ∀ {id : Nat} {st next : Stage}, s.tasks.get? id = some st → ¬ next.Closes u →
      next.holding? = st.holding? → Ahead u (s.put id next) := by
    intro id st next found hn hh k st' hk hcl
    rcases tasks_put_cases hk with ⟨_, rfl⟩ | ⟨_, hk⟩
    · exact (hn hcl).elim
    · obtain ⟨xs, ys, hl, hx⟩ := h k st' hk hcl
      refine ⟨xs, ys, by rw [turns_put, hl], ?_⟩
      exact fun l hlx m hm => hx l hlx m ((holds_put_same rfl found hh l u m).mp hm)
  cases hs with
  | known | rest | unheard | idle | gone | openDocument | invalidate => exact h
  | call id job new =>
    intro k st hk hcl
    rcases tasks_put_cases hk with ⟨_, rfl⟩ | ⟨_, hk⟩
    · cases hcl
      exact (spares rfl).elim
    · obtain ⟨xs, ys, hl, hx⟩ := h k st hk hcl
      refine ⟨xs, ys, by rw [turns_put, hl], ?_⟩
      intro l hlx m hm
      rw [holds_put rfl] at hm
      rcases hm with ⟨hm, _⟩ | ⟨_, hm⟩
      · exact hx l hlx m hm
      · cases hm
  | advance id st found ready t next moves =>
    exact h.move inTurn found moves (about.closes found (hc found) moves)
  | answer id x c plan found => exact same found nofun (holding?_back c plan x)
  | linted id p settings found => exact same found nofun rfl
  | drop id st found => exact spares.elim
  | changeText v text version =>
    rcases changeText_cases s v text version with he | ⟨d, he⟩ <;> rw [he] <;> exact h
  | reload files root =>
    rw [reload_eq]
    exact h

theorem Unclosed.snoc (h : Unclosed u (after as)) (about : LintsOrCloses u (after as))
    (spares : a.Spares u) : Unclosed u (after (as ++ [a])) := by
  intro k st there hc
  rw [after_snoc] at there
  cases (step_act (after as) a).arises there with
  | stays a found => exact h k st found hc
  | called job fresh =>
    subst fresh
    cases hc
    exact spares rfl
  | moved old t found ready moves result sight =>
    exact h k old found (about.closes found (onCourse_after as found) moves hc)
  | answered c plan x found back =>
    subst back
    cases hc
  | linted p settings found ended =>
    subst ended
    cases hc

/-- The tasks that are about the document lint it or close it. Each pass for it owns it or is spent,
requests for it are attended to, and the closes come to the store before all passes. -/
structure Tended (u : Url) (s : Session) : Prop where
  about : LintsOrCloses u s
  owned : Owned u s
  attended : Attended u s
  ahead : Ahead u s

theorem Tended.snoc (h : Tended u (after as)) (spares : a.Spares u) :
    Tended u (after (as ++ [a])) where
  about := h.about.snoc spares.regular
  owned := h.owned.snoc spares (h.ahead.not_fresh (inTurn_after as))
  attended := by
    refine h.attended.snoc ?_
    rintro k rfl
    exact spares
  ahead := h.ahead.snoc h.about spares

theorem Tended.append {before rest : List Action} (h : Tended u (after before))
    (spares : ∀ a ∈ rest, a.Spares u) : Tended u (after (before ++ rest)) := by
  induction rest using List.reverseRecOn with
  | nil => rwa [List.append_nil]
  | append_singleton rest a ih =>
    rw [← List.append_assoc]
    exact (ih fun b hb => spares b (List.mem_append_left _ hb)).snoc (spares a (by simp))

/-- All passes for a document that is not being linted are spent. -/
theorem Tended.spent_of_idle (h : Tended u s) (idle : s.schedule.isPending u = false) (k : Nat)
    (st : Stage) (p : Pass) (found : s.tasks.get? k = some st) (here : st.pass? = some p)
    (hu : p.url = u) : Spent p st := by
  rcases h.owned k st p found here hu with hs | owns
  · exact hs
  · rw [Schedule.isPending_of_owns owns] at idle
    cases idle

/-- Two passes for the document that are not spent are the same. -/
theorem Tended.unique (h : Tended u s) (held : s.schedule.Held s.holds) {q : Pass}
    (found : s.tasks.get? id = some st) (here : st.pass? = some p) (hu : p.url = u)
    (owner : s.schedule.owns u p.ticket = true) (there : s.tasks.get? k = some next)
    (pass : next.pass? = some q) (hq : q.url = u) (hs : ¬ Spent q next) : k = id := by
  rcases h.owned k next q there pass hq with spent | owns
  · exact (hs spent).elim
  · obtain ⟨slot, hm, he⟩ := Schedule.owns_iff.mp owner
    obtain ⟨slot', hn, he'⟩ := Schedule.owns_iff.mp owns
    rw [hm, Option.some.injEq] at hn
    subst hn
    have hid := holds_of_pass found here hu
    rw [← he, he'] at hid
    exact held.apart k id u u _ (holds_of_pass there pass hq) hid

theorem Tended.spent_of_owner (h : Tended u s) (held : s.schedule.Held s.holds)
    (found : s.tasks.get? id = some st) (here : st.pass? = some p) (hu : p.url = u)
    (owner : s.schedule.owns u p.ticket = true) (k : Nat) (next : Stage) (q : Pass) (hk : k ≠ id)
    (there : s.tasks.get? k = some next) (pass : next.pass? = some q) (hq : q.url = u) :
    Spent q next := by
  by_contra hs
  exact hk (h.unique held found here hu owner there pass hq hs)

theorem tended_after (as : List Action) (h : ∀ a ∈ as, a.Spares u) : Tended u (after as) := by
  have hn : Tended u (after []) := by
    refine ⟨?_, ?_, fun hq => (hq rfl).elim, ?_⟩ <;> intro k st
    · intro hk
      cases hk
    · intro p hk
      cases hk
    · intro hk
      cases hk
  exact hn.append h

end Session

end Considerate
