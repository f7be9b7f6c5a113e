import Considerate.Proofs.Session.Update

namespace Considerate.Session

variable {s t : Session} {k n : Nat} {st next : Stage} {u : Url} {p : Pass} {as : List Action}
  {a : Action}

theorem Trades.lastTicket_le (h : Trades s st t next) :
    s.schedule.lastTicket ≤ t.schedule.lastTicket := by
  cases h with
  | nothing begun same pass | stale p here old same es ended => exact Nat.le_of_eq (by rw [same])
  | wait r here busy queued ended => exact Nat.le_of_eq (by rw [queued, Schedule.lastTicket_enqueue])
  | start r here idle claimed v documents begins =>
    rw [claimed, Schedule.lastTicket_claim]
    omega
  | close v here cancelled holding => exact Nat.le_of_eq (by rw [cancelled]; rfl)
  | free p here owner empty freed es ended => exact Nat.le_of_eq (by rw [freed])
  | replay p here owner r handed v documents begins =>
    rw [handed.ticket]
    omega

theorem lastTicket_letGo (s : Session) (k : Nat) (st : Stage) :
    (s.letGo k st).schedule.lastTicket = s.schedule.lastTicket := by
  cases hp : st.pass? with
  | none => rw [schedule_letGo_of_none s k hp]
  | some p =>
    rw [schedule_letGo_of_pass s k hp, Schedule.drop]
    split <;> rfl

theorem lastTicket_snoc (as : List Action) (a : Action) :
    (after as).schedule.lastTicket ≤ (after (as ++ [a])).schedule.lastTicket := by
  rw [after_snoc]
  have hs := step_act (after as) a
  generalize ((after as).act a).1 = t, ((after as).act a).2 = es at *
  cases hs with
  | known | rest | unheard | idle | gone | openDocument | invalidate => exact Nat.le_refl _
  | call | answer | linted => exact Nat.le_of_eq (by rw [schedule_put])
  | advance id st found ready t next moves =>
    rw [schedule_put]
    exact moves.trades.lastTicket_le
  | drop id st found =>
    have he := lastTicket_letGo { after as with tasks := (after as).tasks.erase id } id st
    exact Nat.le_of_eq he.symm
  | changeText v text version =>
    rcases changeText_cases (after as) v text version with he | ⟨d, he⟩
    · exact Nat.le_of_eq (by rw [he])
    · exact Nat.le_of_eq (by rw [he]; rfl)
  | reload files root => exact Nat.le_of_eq (by rw [reload_eq])

/-- The passes for the document up to a ticket are spent. -/
structure Outlived (u : Url) (n : Nat) (s : Session) : Prop where
  issued : n ≤ s.schedule.lastTicket
  spent : ∀ k st p, s.tasks.get? k = some st → st.pass? = some p → p.url = u → p.ticket ≤ n →
    Spent p st

/-- A pass that is spent stays so. A pass that begins has a ticket of its own. -/
theorem Moves.spent {q : Pass} (h : Moves s k st t next) (hc : OnCourse st)
    (hs : ∀ p, st.pass? = some p → p.url = q.url → p.ticket = q.ticket →
      Spent p st ∧ st.tells = true) (hq : next.pass? = some q)
    (old : q.ticket ≤ s.schedule.lastTicket) : Spent q next := by
  have fresh : ¬ JustBegun s t next q := by
    intro begun
    have ht := begun.ticket
    omega
  rcases h.trades.pass_cases hq with ⟨p, hp, he, _⟩ | begun
  · obtain ⟨spent, tells⟩ := hs p hp (congrArg Pass.url he).symm (congrArg Pass.ticket he :).symm
    rcases h.of_spent (hc p hp) spent tells with ⟨_, rfl⟩ | ⟨es, resumes⟩
    · exact Or.inr rfl
    · exact (fresh (resumes.justBegun hq)).elim
  · exact (fresh begun).elim

theorem Outlived.snoc (h : Outlived u n (after as)) (a : Action) :
    Outlived u n (after (as ++ [a])) := by
  refine ⟨Nat.le_trans h.issued (lastTicket_snoc as a), ?_⟩
  intro k st p there hp hu hm
  rw [after_snoc] at there
  cases (step_act (after as) a).arises there with
  | stays a found => exact h.spent k st p found hp hu hm
  | called job fresh =>
    subst fresh
    cases hp
  | moved old t found ready moves result sight =>
    refine moves.spent (onCourse_after as found) ?_ hp (Nat.le_trans hm h.issued)
    intro q hq hqu hqt
    have spent := h.spent k old q found hq (hqu.trans hu) (hqt ▸ hm)
    exact ⟨spent, spent.tells found hq⟩
  | answered c plan x found back =>
    subst back
    rw [pass?_back c] at hp
    exact spent_back x (h.spent k _ p found hp hu hm)
  | linted q settings found ended =>
    subst ended
    exact (h.spent k (.linting q settings) p found hp hu hm).imp_right nofun

theorem Outlived.append {before : List Action} (h : Outlived u n (after before))
    (later : List Action) : Outlived u n (after (before ++ later)) := by
  induction later using List.reverseRecOn with
  | nil => rwa [List.append_nil]
  | append_singleton later a ih =>
    rw [← List.append_assoc]
    exact ih.snoc a

/-- A pass that has been outlived neither stores nor shows anything. -/
theorem Outlived.harmless {m : Nat} (h : Outlived u n (after as)) (holds : (after as).holds k u m)
    (hm : m ≤ n) :
    (after (as ++ [.advance k])).store.get? u = (after as).store.get? u ∧
    published u (as ++ [.advance k]) = published u as := by
  obtain ⟨st, there, hh⟩ := holds
  obtain ⟨p, hp, he⟩ := Option.map_eq_some_iff.mp hh
  obtain ⟨hu, rfl⟩ := Prod.mk.inj he
  have tells := (h.spent k st p there hp hu hm).tells there hp
  cases ready : (after as).canGoOn k st with
  | false =>
    have stuck : ∀ st, (after as).tasks.get? k = some st → (after as).canGoOn k st = false := by
      intro st' hs
      cases there.symm.trans hs
      exact ready
    rw [after_snoc, published_after, act_stuck stuck]
    exact ⟨rfl, List.append_nil _⟩
  | true =>
    refine (goesOn_of_ready there ready).nothing_stored ?_ u
    rintro x rfl
    cases tells

/-- A document is tended when the passes for it are spent and its closes are in the line for the
store. -/
theorem tended_of_regular (as : List Action) (regular : ∀ a ∈ as, a.Regular u)
    (spent : ∀ k st p, (after as).tasks.get? k = some st → st.pass? = some p → p.url = u →
      Spent p st)
    (closing : ∀ k st, (after as).tasks.get? k = some st → st.Closes u →
      k ∈ (after as).turns.line) : Tended u (after as) where
  about := lintsOrCloses_after as regular
  owned k st p found here hu := Or.inl (spent k st p found here hu)
  attended := attended_after u as (not_dropped_of_regular regular)
  ahead := by
    intro k st found hc
    obtain ⟨xs, ys, hl⟩ := List.append_of_mem (closing k st found hc)
    refine ⟨xs, ys, hl, ?_⟩
    rintro l hlx m ⟨st', hs, hh⟩
    obtain ⟨p, hp, he⟩ := Option.map_eq_some_iff.mp hh
    have tells := (spent l st' p hs hp (Prod.mk.inj he).1).tells hs hp
    refine (inTurn_after as).not_mem hs ?_ ?_ (by simp [hl, hlx])
    · cases st' <;> first | rfl | cases tells
    · unfold Stage.tells at tells
      split at tells
      · rfl
      · rfl
      · cases tells

/-- A call to lint a tended document and to show what is found is enough, if the document is not edited
after it. -/
theorem Tended.settles {d : Document} {before rest : List Action} {id : Nat} {o : Options}
    (tended : Tended u (after before)) (plain : o.format = false)
    (new : (after before).tasks.contains id = false) (spares : ∀ a ∈ rest, a.Spares u)
    (unedited : ∀ a ∈ rest, ¬ a.Edits u)
    (opened : (after (before ++ .call id (.validate ⟨u, o⟩) :: rest)).documents.get? u = some d)
    (ended : ∀ k st, (after (before ++ .call id (.validate ⟨u, o⟩) :: rest)).tasks.get? k = some st →
      ¬ st.Validates u) : Settled u d (before ++ .call id (.validate ⟨u, o⟩) :: rest) := by
  have hb : before ++ .call id (.validate ⟨u, o⟩) :: rest =
      (before ++ [.call id (.validate ⟨u, o⟩)]) ++ rest := by simp
  rw [hb] at opened ended ⊢
  have called : Tended u (after (before ++ [.call id (.validate ⟨u, o⟩)])) := tended.snoc trivial
  have wanted : Wanted u (after (before ++ [.call id (.validate ⟨u, o⟩)])) := by
    refine Or.inl ⟨id, ⟨u, o⟩, ?_, rfl, plain⟩
    rw [after_snoc, act, new]
    exact Keyed.get?_set_self ..
  have awaits := called.awaits ⟨(called.documents spares unedited).symm.trans opened, Or.inl wanted⟩
    spares unedited
  exact (called.append spares).settled awaits ended

/-- When a document is opened and all passes for it from before are spent, its closes being in the
line for the store, then no pass from before changes what is stored or shown for it any more,
whatever happens later. When it is not closed any more and a call to lint it and to show what is
found comes after the last action that opens or changes it or invalidates its settings, then what is
stored and was last published in the end is what linting its text gives. -/
theorem not_spoiled_by_spent (u : Url) (d₀ : Document) (before : List Action)
    (regular : ∀ a ∈ before, a.Regular u)
    (spent : ∀ k st p, (after before).tasks.get? k = some st → st.pass? = some p → p.url = u →
      Spent p st)
    (closing : ∀ k st, (after before).tasks.get? k = some st → st.Closes u →
      k ∈ (after before).turns.line) :
    (∀ later k m, (after (before ++ .openDocument u d₀ :: later)).holds k u m →
      m ≤ (after before).schedule.lastTicket →
      (after (before ++ .openDocument u d₀ :: later ++ [.advance k])).store.get? u =
        (after (before ++ .openDocument u d₀ :: later)).store.get? u ∧
      published u (before ++ .openDocument u d₀ :: later ++ [.advance k]) =
        published u (before ++ .openDocument u d₀ :: later)) ∧
    ∀ mid id o rest d, o.format = false →
      (after (before ++ .openDocument u d₀ :: mid)).tasks.contains id = false →
      (∀ a ∈ mid ++ .call id (.validate ⟨u, o⟩) :: rest, a.Spares u) →
      (∀ a ∈ rest, ¬ a.Edits u) →
      let run := before ++ .openDocument u d₀ :: (mid ++ .call id (.validate ⟨u, o⟩) :: rest)
      (after run).documents.get? u = some d →
      (∀ k st, (after run).tasks.get? k = some st → ¬ st.Validates u) →
      ∃ settings, Fetched u settings run ∧
        let found := (after run).store.findings u
        (found.diagnostics, found.fixes) = outcome (lint u (some d) settings) ∧
        (published u run).getLast? = some found.diagnostics := by
  constructor
  · intro later k m holds hm
    have outlived : Outlived u (after before).schedule.lastTicket (after before) :=
      ⟨Nat.le_refl _, fun k st p found here hu _ => spent k st p found here hu⟩
    exact (outlived.append (.openDocument u d₀ :: later)).harmless holds hm
  · intro mid id o rest d plain new spares unedited run opened ended
    have tended := tended_of_regular before regular spent closing
    have spared : ∀ a ∈ .openDocument u d₀ :: mid, a.Spares u := by
      intro a ha
      rcases List.mem_cons.mp ha with rfl | ha
      · trivial
      · exact spares a (List.mem_append_left _ ha)
    have hrun : run = (before ++ .openDocument u d₀ :: mid) ++ .call id (.validate ⟨u, o⟩) :: rest := by
      simp [run]
    rw [hrun] at opened ended ⊢
    obtain ⟨settings, hf, hs⟩ := (tended.append spared).settles plain new
      (fun a ha => spares a (List.mem_append_right _ (List.mem_cons_of_mem _ ha))) unedited opened
      ended
    exact ⟨settings, hf, Prod.ext hs.diagnostics hs.fixes, hs.shown.trans (by rw [hs.diagnostics])⟩

/-- A document is opened and linted, and closed while it is being linted. The pass has found it
closed, and tells its end, and the close shows that nothing is left. -/
def untilSpent (u : Url) : List Action :=
  [.openDocument u ⟨"guys", 1, .plainText⟩, .call 0 (.validate ⟨u, {}⟩), .advance 0, .advance 0,
    .answer 0 {}, .advance 0, .answer 0 {}, .advance 0, .advance 0, .answer 0 {}, .advance 0,
    .call 1 (.close u), .advance 1, .advance 1, .linted 0, .advance 0]

/-- The document has been opened again and is linted. The old pass and the close end meanwhile. -/
def sinceReopened : List Action :=
  [.advance 2, .advance 2, .answer 1 {}, .advance 1, .advance 2, .answer 2 {}, .advance 2,
    .answer 2 {}, .advance 2, .advance 2, .answer 2 {}, .advance 2, .linted 2, .advance 2,
    .advance 2, .answer 2 {}, .advance 2, .advance 2, .answer 2 {}, .advance 2, .answer 0 {},
    .advance 0]

/-- A pass that tells its end while the document is opened again does not spoil what comes after. -/
theorem reopened_while_telling :
    (∀ later k m, (after (untilSpent notes ++ .openDocument notes ⟨"", 2, .plainText⟩ :: later)).holds k notes m →
      m ≤ (after (untilSpent notes)).schedule.lastTicket →
      (after (untilSpent notes ++ .openDocument notes ⟨"", 2, .plainText⟩ :: later ++ [.advance k])).store.get? notes =
        (after (untilSpent notes ++ .openDocument notes ⟨"", 2, .plainText⟩ :: later)).store.get? notes ∧
      published notes (untilSpent notes ++ .openDocument notes ⟨"", 2, .plainText⟩ :: later ++ [.advance k]) =
        published notes (untilSpent notes ++ .openDocument notes ⟨"", 2, .plainText⟩ :: later)) ∧
    ∃ settings,
      let run := untilSpent notes ++ .openDocument notes ⟨"", 2, .plainText⟩ ::
        ([] ++ .call 2 (.validate ⟨notes, {}⟩) :: sinceReopened)
      Fetched notes settings run ∧
        let found := (after run).store.findings notes
        (found.diagnostics, found.fixes) =
          outcome (lint notes (some ⟨"", 2, .plainText⟩) settings) ∧
        (published notes run).getLast? = some found.diagnostics := by
  have known : ∀ k st, (after (untilSpent notes)).tasks.get? k = some st →
      st.tellsEnd = true ∨ st.isShowing = true ∧ st.pass? = none := by
    have hall : (after (untilSpent notes)).tasks.entries.all (fun e =>
        e.2.tellsEnd || e.2.isShowing && e.2.pass?.isNone) = true := by decide +kernel
    intro k st hk
    simpa using List.all_eq_true.mp hall _ (Keyed.mem_of_find hk)
  obtain ⟨harmless, settles⟩ := not_spoiled_by_spent notes ⟨"", 2, .plainText⟩ (untilSpent notes)
    (by simp [untilSpent, Action.Regular, Job.Regular])
    (by
      intro k st p hk hp _
      rcases known k st hk with he | ⟨_, hn⟩
      · exact Or.inr he
      · rw [hn] at hp
        cases hp)
    (by
      intro k st hk hc
      rcases known k st hk with he | ⟨hs, _⟩ <;> cases hc <;> contradiction)
  refine ⟨harmless, settles [] 2 {} sinceReopened _ rfl (by decide +kernel) ?_ ?_
    (by decide +kernel) ?_⟩
  · simp [sinceReopened, Action.Spares, Job.Spares]
  · simp [sinceReopened, Action.Edits, Action.Forgets]
  · intro k st hk
    have hn : (after (untilSpent notes ++ .openDocument notes ⟨"", 2, .plainText⟩ ::
        ([] ++ .call 2 (.validate ⟨notes, {}⟩) :: sinceReopened))).tasks.entries.length = 0 := by
      decide +kernel
    rw [Keyed.get?_of_no_entries hn] at hk
    cases hk

/-- A document is opened and linted, and closed while the pass waits for its settings. -/
def untilAsked (u : Url) : List Action :=
  [.openDocument u ⟨"guys", 1, .plainText⟩, .call 0 (.validate ⟨u, {}⟩), .advance 0, .advance 0,
    .answer 0 {}, .advance 0, .answer 0 {}, .advance 0, .advance 0, .call 1 (.close u), .advance 1,
    .advance 1, .answer 1 {}, .advance 1]

/-- The document has been opened again, with another text, and linted. Then the old pass gets its
settings and lints the old text. -/
def untilOvertaken (u : Url) : List Action :=
  [.call 2 (.validate ⟨u, {}⟩), .advance 2, .advance 2, .answer 2 {}, .advance 2, .answer 2 {},
    .advance 2, .advance 2, .answer 2 {}, .advance 2, .linted 2, .advance 2, .advance 2,
    .answer 2 {}, .advance 2, .advance 2, .answer 2 {}, .advance 2, .answer 0 {}, .advance 0,
    .linted 0, .advance 0]

/-- The old pass ends. -/
def sinceOvertaken : List Action :=
  [.answer 0 {}, .advance 0, .advance 0, .answer 0 {}, .advance 0]

def overtaken : List Action :=
  untilAsked notes ++ .openDocument notes ⟨"", 2, .plainText⟩ :: untilOvertaken notes

/-- A pass from before a close stores what it finds in the old text, although the document has been
opened again and the new text been linted. That is what stays and is shown in the end. -/
theorem old_pass_overtakes :
    (after overtaken).holds 0 notes 1 ∧ 1 ≤ (after (untilAsked notes)).schedule.lastTicket ∧
    ((after overtaken).store.findings notes).diagnostics = [] ∧
    ((after (overtaken ++ [.advance 0])).store.findings notes).diagnostics ≠ [] ∧
    (after (overtaken ++ .advance 0 :: sinceOvertaken)).documents.get? notes =
      some ⟨"", 2, .plainText⟩ ∧
    (after (overtaken ++ .advance 0 :: sinceOvertaken)).tasks.entries.length = 0 ∧
    ((after (overtaken ++ .advance 0 :: sinceOvertaken)).store.findings notes).diagnostics ≠ [] ∧
    ((published notes (overtaken ++ .advance 0 :: sinceOvertaken)).getLast?.map List.length) =
      some 1 ∧
    (outcome (lint notes (some ⟨"", 2, .plainText⟩) {})).1 = [] := by
  have held : ((after overtaken).tasks.get? 0).bind Stage.holding? = some (notes, 1) := by
    decide +kernel
  have empty : ((after overtaken).store.findings notes).diagnostics.length = 0 := by decide +kernel
  have filled : ((after (overtaken ++ [.advance 0])).store.findings notes).diagnostics.length = 1 := by
    decide +kernel
  have stored : ((after (overtaken ++ .advance 0 :: sinceOvertaken)).store.findings
      notes).diagnostics.length = 1 := by decide +kernel
  have clean : (outcome (lint notes (some ⟨"", 2, .plainText⟩) {})).1.length = 0 := by
    decide +kernel
  refine ⟨Option.bind_eq_some_iff.mp held, by decide +kernel, List.length_eq_zero_iff.mp empty, ?_,
    by decide +kernel, by decide +kernel, ?_, by decide +kernel, List.length_eq_zero_iff.mp clean⟩
  · exact List.ne_nil_of_length_eq_add_one filled
  · exact List.ne_nil_of_length_eq_add_one stored

end Considerate.Session
