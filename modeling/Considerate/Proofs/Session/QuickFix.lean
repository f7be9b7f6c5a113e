import Considerate.Proofs.Codes
import Considerate.Proofs.Session.Publications
import Considerate.Proofs.Session.Update

namespace Considerate

/-- The diagnostic that a quick fix has found, as long as the fix is under way. -/
def Stage.fixes? : Stage → Option (Url × Diagnostic)
  | .calling _ (.applied u d) | .back (.applied u d) _
  | .store (.change u (.remove [d] false none) (.finish (.applied true))) => some (u, d)
  | _ => none

/-- The changes that tasks make by themselves, when none is called to make a change. -/
inductive Change.Own : Change → Prop
  | replace (ds : List Diagnostic) (fixes : Fixes) (distinct : Distinct ds) :
      Own (.replace ds fixes)
  | clear : Own .clear
  | remove (d : Diagnostic) : Own (.remove [d] false none)
  | purge : Own .purge
  | record (a : Artifact) : Own (.record a)

namespace Change.Own

variable {c : Change} (h : c.Own) (s : Store) (u : Url)

include h

theorem distinct (hd : Distinct (s.findings u).diagnostics) :
    Distinct ((s.change u c).1.findings u).diagnostics := by
  cases h with
  | replace ds fixes distinct => simpa using distinct
  | clear => simpa using Distinct.nil
  | remove d => simpa [Store.change, Findings.remove] using hd.without [d] false
  | purge => simpa using Distinct.nil
  | record a => simpa using hd

/-- Only findings of a pass bring diagnostics that were not stored before. -/
theorem subset (hr : ∀ ds fixes, c ≠ .replace ds fixes) :
    ((s.change u c).1.findings u).diagnostics ⊆ (s.findings u).diagnostics := by
  cases h with
  | replace ds fixes => exact (hr ds fixes rfl).elim
  | clear => simp
  | remove d => simp [Store.change, Findings.remove, Findings.without]
  | purge => simp
  | record a => simp

end Change.Own

/-- A quick fix takes out the diagnostics with the code of the one that it has found. -/
theorem Store.mem_remove (s : Store) (u : Url) (d x : Diagnostic) :
    x ∈ ((s.change u (.remove [d] false none)).1.findings u).diagnostics ↔
      x ∈ (s.findings u).diagnostics ∧ (x.codeText = none ∨ x.codeText ≠ d.codeText) := by
  simp only [change, Findings.remove, findings_set_self, Findings.without, List.mem_filter]
  refine and_congr_right fun _ => ?_
  cases hd : d.codeText with
  | none => cases hx : x.codeText <;> simp [hd]
  | some code => cases hx : x.codeText <;> simp [hd, hx, Diagnostic.hasCode]

namespace Session

variable {s t : Session} {id k : Nat} {st next : Stage} {u : Url} {d : Diagnostic}
  {as : List Action} {a : Action}

theorem Begins.change? {r : Request} {ticket : Nat} {c : Change} (h : Begins s r ticket t st)
    (hc : st.change? = some (u, c)) : c = .clear := by
  cases h <;> cases hc
  rfl

theorem Resumes.own {plan : Plan} {c : Change} (h : Resumes s plan t st)
    (hc : st.change? = some (u, c)) : c.Own := by
  cases h with
  | replay p es owner r schedule handed t st begins =>
    rw [begins.change? hc]
    exact .clear
  | purge p r closed =>
    cases hc
    exact .purge
  | record p r opened plain =>
    cases hc
    exact .record _
  | _ => cases hc

/-- The change that a task comes to the store for is one of its own, or the task has been called to
make it. -/
theorem Moves.own {c : Change} (h : Moves s id st t next) (hc : next.change? = some (u, c)) :
    st.change? = some (u, c) ∨ st = .fresh (.change u c) ∨ c.Own := by
  cases h with
  | start r idle t next begins =>
    rw [begins.change? hc]
    exact Or.inr (Or.inr .clear)
  | close v =>
    cases hc
    exact Or.inr (Or.inr .purge)
  | change v c =>
    cases hc
    exact Or.inr (Or.inl rfl)
  | queue a busy => exact Or.inl hc
  | keep v c plan turn store changed t next resumes | shown plan x t next resumes
  | told plan x t next resumes => exact Or.inr (Or.inr (resumes.own hc))
  | configured n reader x => cases reader <;> cases hc
  | filled v n reader settings value => cases reader <;> cases hc
  | applied v d x made =>
    cases hc
    exact Or.inr (Or.inr (.remove d))
  | report p settings r passed opened =>
    cases hc
    exact Or.inr (Or.inr (.replace _ _ (distinct_of_lint passed)))
  | _ => cases hc

theorem own_after (direct : ∀ l c, .call l (.change u c) ∉ as) {c : Change}
    (there : (after as).tasks.get? k = some st) (hc : st.change? = some (u, c)) : c.Own := by
  induction as using List.reverseRecOn generalizing k st with
  | nil => cases there
  | append_singleton as a ih =>
    have hm : ∀ l c, .call l (.change u c) ∉ as := fun l c hl =>
      direct l c (List.mem_append_left _ hl)
    rw [after_snoc] at there
    cases (step_act (after as) a).arises there with
    | stays a found => exact ih hm found hc
    | called job fresh =>
      subst fresh
      cases hc
    | moved old t found ready moves result sight =>
      rcases moves.own hc with ho | rfl | own
      · exact ih hm found ho
      · exact (not_fresh_after (fun l => hm l c) k found).elim
      · exact own
    | answered c plan x found back =>
      subst back
      cases hc
    | linted p settings found ended =>
      subst ended
      cases hc

/-- An action leaves what is stored for the document, or a task makes its change of that in its
turn. -/
theorem same_or_changed (u : Url) (as : List Action) (a : Action) :
    (after (as ++ [a])).store.get? u = (after as).store.get? u ∨
    ∃ k c plan, a = .advance k ∧ (after as).tasks.get? k = some (.store (.change u c plan)) ∧
      ((after as).turns.request k).isHeldBy k = true ∧
      (after (as ++ [a])).store = ((after as).store.change u c).1 := by
  rcases advance_or_still u as a with ⟨k, st, t, next, rfl, goes⟩ | ⟨_, same, _⟩
  · rw [goes.store]
    cases hc : st.change? with
    | none => exact Or.inl (by rw [(goes.moves.elsewhere hc).1])
    | some e =>
      obtain ⟨v, c⟩ := e
      obtain ⟨plan, rfl⟩ := eq_of_change? hc
      by_cases hv : u = v
      · subst hv
        rcases goes.moves.change_cases with ⟨_, same, _⟩ | ⟨turn, _, changed, _⟩ |
          ⟨turn, _, _, ds, changed, _⟩
        · exact Or.inl (by rw [same])
        · exact Or.inr ⟨k, c, plan, rfl, goes.found, turn, by rw [changed]⟩
        · exact Or.inr ⟨k, c, plan, rfl, goes.found, turn, by rw [changed]⟩
      · have hn := (after as).store.get?_change_ne hv c
        left
        rcases goes.moves.change_cases with ⟨_, same, _⟩ | ⟨_, _, changed, _⟩ |
          ⟨_, _, _, ds, changed, _⟩
        · rw [same]
        · rw [changed] at hn
          exact hn
        · rw [changed] at hn
          exact hn
  · exact Or.inl same

/-- In every state that a session reaches without being called to make changes, the diagnostics that
are stored for the document have different codes. -/
theorem distinct_after (direct : ∀ l c, .call l (.change u c) ∉ as) :
    Distinct ((after as).store.findings u).diagnostics := by
  induction as using List.reverseRecOn with
  | nil => exact .nil
  | append_singleton as a ih =>
    have hm : ∀ l c, .call l (.change u c) ∉ as := fun l c hl =>
      direct l c (List.mem_append_left _ hl)
    rcases same_or_changed u as a with same | ⟨k, c, plan, rfl, found, turn, changed⟩
    · rw [Store.findings, same]
      exact ih hm
    · rw [changed]
      exact (own_after hm found rfl).distinct _ u (ih hm)

/-- Whether a task stores the findings of a pass for the document by an action. -/
def Stores (u : Url) (s : Session) (a : Action) : Prop :=
  ∃ k ds fixes plan, a = .advance k ∧
    s.tasks.get? k = some (.store (.change u (.replace ds fixes) plan)) ∧
    (s.turns.request k).isHeldBy k = true

/-- As long as no findings are stored, no diagnostic comes up that was not stored before. -/
theorem stored_subset {before rest : List Action}
    (direct : ∀ l c, .call l (.change u c) ∉ before ++ rest)
    (unstored : ∀ earlier a later, rest = earlier ++ a :: later →
      ¬ Stores u (after (before ++ earlier)) a) :
    ((after (before ++ rest)).store.findings u).diagnostics ⊆
      ((after before).store.findings u).diagnostics := by
  induction rest using List.reverseRecOn with
  | nil => simp
  | append_singleton rest a ih =>
    rw [← List.append_assoc] at direct ⊢
    have hm : ∀ l c, .call l (.change u c) ∉ before ++ rest := fun l c hl =>
      direct l c (List.mem_append_left _ hl)
    refine List.Subset.trans ?_ (ih hm ?_)
    · rcases same_or_changed u (before ++ rest) a with same | ⟨k, c, plan, rfl, found, turn, changed⟩
      · rw [Store.findings, same]
        exact List.Subset.refl _
      · rw [changed]
        apply (own_after hm found rfl).subset
        rintro ds fixes rfl
        exact unstored rest (.advance k) [] rfl ⟨k, ds, fixes, plan, rfl, found, turn⟩
    · intro earlier b later he
      exact unstored earlier b (later ++ [a]) (by simp [he])

/-- A quick fix finds a diagnostic by its code, and asks the editor to replace its range. -/
structure Finds (u : Url) (k : Nat) (code value : String) (d : Diagnostic) (as : List Action) :
    Prop where
  there : (after as).tasks.get? k = some (.store (.fix u code value))
  found : (after as).store.find u code = some d
  asks : .called k (.applyEdit u ⟨d.range, value⟩) ∈ ((after as).act (.advance k)).2

theorem Begins.fixes? {r : Request} {ticket : Nat} (h : Begins s r ticket t st) :
    st.fixes? = none := by
  cases h <;> rfl

theorem Resumes.fixes? {plan : Plan} (h : Resumes s plan t st) : st.fixes? = none := by
  cases h with
  | replay p es owner r schedule handed t st begins => exact begins.fixes?
  | _ => rfl

theorem fixes?_back (c : Call) (plan : Return) (x : Answer) :
    (Stage.back plan x).fixes? = (Stage.calling c plan).fixes? := by
  cases plan <;> rfl

/-- A quick fix that is under way was so before, or it has just found its diagnostic. -/
theorem Moves.fixes? (h : Moves s id st t next) (hn : next.fixes? = some (u, d)) :
    st.fixes? = some (u, d) ∨
    ∃ code value, st = .store (.fix u code value) ∧ s.store.find u code = some d ∧
      next = .calling (.applyEdit u ⟨d.range, value⟩) (.applied u d) := by
  cases h with
  | start r idle t next begins =>
    rw [begins.fixes?] at hn
    cases hn
  | keep v c plan turn store changed t next resumes | shown plan x t next resumes
  | told plan x t next resumes =>
    rw [resumes.fixes?] at hn
    cases hn
  | queue a busy => exact Or.inl hn
  | change v c =>
    unfold Stage.fixes? at hn
    split at hn <;> simp_all
  | apply v code value turn d found =>
    cases hn
    exact Or.inr ⟨code, value, rfl, found, rfl⟩
  | configured n reader x => cases reader <;> cases hn
  | filled v n reader settings value => cases reader <;> cases hn
  | applied v d x made =>
    cases hn
    exact Or.inl rfl
  | _ => cases hn

/-- The task is at a quick fix for the diagnostic. -/
def IsFixing (s : Session) (k : Nat) (u : Url) (d : Diagnostic) : Prop :=
  ∃ st, s.tasks.get? k = some st ∧ st.fixes? = some (u, d)

/-- A quick fix that is under way has found its diagnostic at some time and has been under way
since. -/
theorem finds_of_isFixing (h : (after as).IsFixing k u d) :
    ∃ before rest code value, as = before ++ .advance k :: rest ∧ Finds u k code value d before ∧
      ∀ earlier later, rest = earlier ++ later →
        (after (before ++ .advance k :: earlier)).IsFixing k u d := by
  induction as using List.reverseRecOn with
  | nil =>
    obtain ⟨st, there, _⟩ := h
    cases there
  | append_singleton as a ih =>
    have longer : (after as).IsFixing k u d → ∃ before rest code value,
        as ++ [a] = before ++ .advance k :: rest ∧ Finds u k code value d before ∧
        ∀ earlier later, rest = earlier ++ later →
          (after (before ++ .advance k :: earlier)).IsFixing k u d := by
      intro hk
      obtain ⟨before, rest, code, value, rfl, finds, during⟩ := ih hk
      refine ⟨before, rest ++ [a], code, value, by simp, finds, ?_⟩
      intro earlier later he
      rcases List.eq_nil_or_concat later with rfl | ⟨later, b, rfl⟩
      · rw [List.append_nil] at he
        subst he
        simpa using h
      · rw [List.concat_eq_append, ← List.append_assoc] at he
        exact during earlier later (List.append_inj' he rfl).1
    obtain ⟨st, there, hf⟩ := h
    rw [after_snoc] at there
    cases (step_act (after as) a).arises there with
    | stays a found => exact longer ⟨st, found, hf⟩
    | called job fresh =>
      subst fresh
      cases hf
    | moved old t found ready moves result sight =>
      rcases moves.fixes? hf with ho | ⟨code, value, rfl, hd, rfl⟩
      · exact longer ⟨old, found, ho⟩
      · refine ⟨as, [], code, value, rfl, ⟨found, hd, sight _ (by simp [seen])⟩, ?_⟩
        intro earlier later he
        obtain ⟨rfl, rfl⟩ := List.nil_eq_append_iff.mp he
        exact ⟨_, (after_snoc ..) ▸ there, rfl⟩
    | answered c plan x found back =>
      subst back
      rw [fixes?_back c] at hf
      exact longer ⟨_, found, hf⟩
    | linted p settings found ended =>
      subst ended
      cases hf

/-- The diagnostic is stored for the document before the action and not after it. -/
def TakenOut (u : Url) (as : List Action) (a : Action) (x : Diagnostic) : Prop :=
  x ∈ ((after as).store.findings u).diagnostics ∧
    x ∉ ((after (as ++ [a])).store.findings u).diagnostics

/-- A task whose turn it is goes on. -/
theorem canGoOn_of_turn {x : Access} (turn : ((after as).turns.request k).isHeldBy k = true) :
    (after as).canGoOn k (.store x) = true := by
  have ho := (inTurn_after as).orderly
  have hw : k ∉ (after as).turns.waiting := by
    rcases Turns.isHeldBy_request.mp turn with hn | hk
    · simp [ho.idle hn]
    · exact ho.not_waiting hk
  simpa [canGoOn] using hw

theorem Finds.store {code value : String} (h : Finds u k code value d as) :
    (after (as ++ [.advance k])).store.get? u = (after as).store.get? u := by
  rcases same_or_changed u as (.advance k) with same | ⟨l, c, plan, ha, found, _⟩
  · exact same
  · cases ha
    cases h.there.symm.trans found

/-- What a quick fix takes out is the diagnostic that has, when the fix gets its turn in the store,
the code of the diagnostic that it has found. If no pass has stored its findings since, that is the
diagnostic itself. -/
theorem quick_fix_takes_out (u : Url) (d : Diagnostic) (as : List Action) (k : Nat)
    (direct : ∀ l c, .call l (.change u c) ∉ as)
    (there : (after as).tasks.get? k =
      some (.store (.change u (.remove [d] false none) (.finish (.applied true)))))
    (turn : ((after as).turns.request k).isHeldBy k = true) :
    ∃ before rest code value, as = before ++ .advance k :: rest ∧ Finds u k code value d before ∧
      (∀ earlier later, rest = earlier ++ later →
        (after (before ++ .advance k :: earlier)).IsFixing k u d) ∧
      (∀ x, TakenOut u as (.advance k) x ↔ (after as).store.find u code = some x) ∧
      ((∀ earlier a later, rest = earlier ++ a :: later →
          ¬ Stores u (after (before ++ .advance k :: earlier)) a) →
        ∀ x, TakenOut u as (.advance k) x → x = d) := by
  obtain ⟨before, rest, code, value, rfl, finds, during⟩ := finds_of_isFixing ⟨_, there, rfl⟩
  have hm : ∀ l c, .call l (.change u c) ∉ before := fun l c hl =>
    direct l c (List.mem_append_left _ hl)
  obtain ⟨hd, hcode⟩ := (Store.find_eq_some_iff (distinct_after hm) code d).mp finds.found
  have hsplit : before ++ .advance k :: rest = (before ++ [.advance k]) ++ rest := by simp
  generalize has : before ++ .advance k :: rest = as at direct there turn
  have taken : ∀ x, TakenOut u as (.advance k) x ↔ (after as).store.find u code = some x := by
    intro x
    have goes := goesOn_of_ready there (canGoOn_of_turn turn)
    have hs : (after (as ++ [.advance k])).store =
        ((after as).store.change u (.remove [d] false none)).1 := by
      rw [goes.store]
      rcases goes.moves.change_cases with ⟨busy, _⟩ | ⟨_, off, _⟩ | ⟨_, _, _, ds, changed, _⟩
      · cases turn.symm.trans busy
      · cases off
      · rw [changed]
    rw [Store.find_eq_some_iff (distinct_after direct), TakenOut, hs, Store.mem_remove, hcode]
    refine and_congr_right fun hx => ?_
    simp only [hx, true_and, not_or, ne_eq, not_not]
    exact ⟨And.right, fun he => ⟨by simp [he], he⟩⟩
  refine ⟨before, rest, code, value, has.symm, finds, during, taken, ?_⟩
  intro unstored x hx
  rw [taken, Store.find_eq_some_iff (distinct_after direct)] at hx
  have hmem : x ∈ ((after before).store.findings u).diagnostics := by
    rw [← has, hsplit] at direct hx
    have hs := stored_subset direct (by simpa using unstored) hx.1
    rwa [Store.findings, finds.store] at hs
  exact (distinct_after hm).eq_of_codeText hmem hd (hx.2.trans hcode.symm)

/-- A document is opened and linted, and a quick fix has come to the store to find the one
diagnostic. -/
def untilFix (u : Url) : List Action :=
  [.openDocument u ⟨"guys", 1, .plainText⟩, .call 0 (.validate ⟨u, {}⟩), .advance 0, .advance 0,
    .answer 0 {}, .advance 0, .answer 0 {}, .advance 0, .advance 0, .answer 0 {}, .advance 0,
    .linted 0, .advance 0, .advance 0, .answer 0 {}, .advance 0, .advance 0, .answer 0 {}, .advance 0,
    .call 1 (.quickFix u "kindlint-1" "people"), .advance 1]

/-- The text changes while the editor applies the fix, and is linted again. Then the editor answers,
and the fix is at the store to take out what it has found. -/
def sinceFix (u : Url) : List Action :=
  [.changeText u "the slave" 2, .call 2 (.validate ⟨u, {}⟩), .advance 2, .advance 2, .answer 2 {},
    .advance 2, .answer 2 {}, .advance 2, .advance 2, .linted 2, .advance 2, .advance 2, .answer 2 {},
    .advance 2, .advance 2, .answer 2 {}, .advance 2, .answer 1 {}, .advance 1]

def renumbered : List Action := untilFix notes ++ .advance 1 :: sinceFix notes

/-- A quick fix at the store is there to take out what it has found. -/
theorem eq_of_fixes? (off : st.isAtStore = true) (h : st.fixes? = some (u, d)) :
    st = .store (.change u (.remove [d] false none) (.finish (.applied true))) := by
  unfold Stage.fixes? at h
  split at h
  · cases off
  · cases off
  · cases h
    rfl
  · cases h

theorem fix_at_store : ∃ d, (after renumbered).tasks.get? 1 =
    some (.store (.change notes (.remove [d] false none) (.finish (.applied true)))) := by
  have hf : ((after renumbered).tasks.get? 1).map
      (fun st => (st.isAtStore, st.fixes?.map Prod.fst)) = some (true, some notes) := by
    decide +kernel
  obtain ⟨st, there, hs⟩ := Option.map_eq_some_iff.mp hf
  obtain ⟨off, hn⟩ := Prod.mk.inj hs
  obtain ⟨⟨v, d⟩, hd, rfl⟩ := Option.map_eq_some_iff.mp hn
  exact ⟨d, there.trans (congrArg some (eq_of_fixes? off hd))⟩

theorem quick_fix_takes_out_renumbered :
    ∃ d before rest code value, renumbered = before ++ .advance 1 :: rest ∧
      Finds notes 1 code value d before ∧
      (∀ earlier later, rest = earlier ++ later →
        (after (before ++ .advance 1 :: earlier)).IsFixing 1 notes d) ∧
      (∀ x, TakenOut notes renumbered (.advance 1) x ↔
        (after renumbered).store.find notes code = some x) ∧
      ((∀ earlier a later, rest = earlier ++ a :: later →
          ¬ Stores notes (after (before ++ .advance 1 :: earlier)) a) →
        ∀ x, TakenOut notes renumbered (.advance 1) x → x = d) := by
  obtain ⟨d, there⟩ := fix_at_store
  refine ⟨d, quick_fix_takes_out notes d renumbered 1 ?_ there (by decide +kernel)⟩
  simp [renumbered, untilFix, sinceFix]

/-- A quick fix takes out a diagnostic of a pass that has stored its findings while the editor
applied the fix, and not the one that it has found. -/
theorem quick_fix_takes_out_another :
    ∃ d x, (after renumbered).IsFixing 1 notes d ∧ TakenOut notes renumbered (.advance 1) x ∧
      x ≠ d ∧ x ∉ ((after (untilFix notes)).store.findings notes).diagnostics := by
  obtain ⟨d, there⟩ := fix_at_store
  have hd : ((after renumbered).tasks.get? 1).bind
      (fun st => st.fixes?.map fun e => e.2.message) = some "`guys` may be insensitive" := by
    decide +kernel
  have hbefore : ((after (untilFix notes)).store.findings notes).diagnostics.map
      Diagnostic.message = ["`guys` may be insensitive"] := by decide +kernel
  have hold : ((after renumbered).store.findings notes).diagnostics.map
      Diagnostic.message = ["`slave` may be insensitive"] := by decide +kernel
  have hnew : ((after (renumbered ++ [.advance 1])).store.findings notes).diagnostics.length = 0 := by
    decide +kernel
  obtain ⟨x, hx, hm⟩ := List.map_eq_singleton_iff.mp hold
  rw [there] at hd
  have hd : d.message = "`guys` may be insensitive" := Option.some.inj hd
  refine ⟨d, x, ⟨_, there, rfl⟩, ⟨by simp [hx], ?_⟩, ?_, ?_⟩
  · rw [List.length_eq_zero_iff.mp hnew]
    exact List.not_mem_nil
  · rintro rfl
    rw [hm] at hd
    exact absurd hd (by decide)
  · intro hmem
    have := List.mem_map_of_mem (f := Diagnostic.message) hmem
    rw [hbefore, hm] at this
    exact absurd this (by decide)

end Session

end Considerate
