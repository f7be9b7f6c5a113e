import Considerate.Proofs.Session.Closed
import Considerate.Proofs.Session.Representation

namespace Considerate

/-- The stages of a task that applies a quick fix to the document, as long as something is left to be
done in the store. -/
inductive Stage.AppliesFix (u : Url) : Stage → Prop
  | begin (code value : String) : AppliesFix u (.fresh (.quickFix u code value))
  | find (code value : String) : AppliesFix u (.store (.fix u code value))
  | asking (edit : Edit) (d : Diagnostic) : AppliesFix u (.calling (.applyEdit u edit) (.applied u d))
  | told (d : Diagnostic) (x : Answer) : AppliesFix u (.back (.applied u d) x)
  | takes (d : Diagnostic) :
      AppliesFix u (.store (.change u (.remove [d] false none) (.finish (.applied true))))

namespace Session

def Occurs (P : List Action → Action → Prop) (rest : List Action) : Prop :=
  ∃ earlier a later, rest = earlier ++ a :: later ∧ P earlier a

/-- The close, task `k`, has forgotten the document in the store. -/
def Forgotten (u : Url) (k : Nat) (before : List Action) : List Action → Prop :=
  Occurs fun earlier a => Makes u k .purge (.finish .nothing) (after (before ++ earlier)) a

/-- A quick fix has taken out what it has found after the close, task `k`, had forgotten the
document. -/
def TakenOutLate (u : Url) (k : Nat) (before : List Action) : List Action → Prop :=
  Occurs fun earlier a => Forgotten u k before earlier ∧
    ∃ l d, Makes u l (.remove [d] false none) (.finish (.applied true)) (after (before ++ earlier)) a

variable {s t : Session} {id k l : Nat} {st next : Stage} {u : Url} {as before rest : List Action}
  {a : Action}

theorem not_occurs_nil (P : List Action → Action → Prop) : ¬ Occurs P [] := by
  rintro ⟨earlier, a, later, split, _⟩
  simp at split

theorem occurs_snoc {P : List Action → Action → Prop} :
    Occurs P (rest ++ [a]) ↔ Occurs P rest ∨ P rest a := by
  constructor
  · rintro ⟨earlier, b, later, split, meant⟩
    rcases List.eq_nil_or_concat later with rfl | ⟨later, c, rfl⟩
    · obtain ⟨rfl, ha⟩ := List.append_inj' split rfl
      cases ha
      exact Or.inr meant
    · have hs : rest ++ [a] = (earlier ++ b :: later) ++ [c] := by simpa using split
      exact Or.inl ⟨earlier, b, later, (List.append_inj' hs rfl).1, meant⟩
  · rintro (⟨earlier, b, later, rfl, meant⟩ | meant)
    · exact ⟨earlier, b, later ++ [a], by simp, meant⟩
    · exact ⟨rest, a, [], rfl, meant⟩

/-- What is stored for the document and what was shown for it stay, unless a task makes its change of
it. -/
theorem unchanged_or_makes (u : Url) (as : List Action) (a : Action) :
    ((after (as ++ [a])).store.get? u = (after as).store.get? u ∧
      published u (as ++ [a]) = published u as) ∨ ∃ k c plan, Makes u k c plan (after as) a := by
  rcases advance_or_still u as a with ⟨k, st, t, next, rfl, goes⟩ | ⟨_, same⟩
  · by_cases makes : ∃ l c plan, Makes u l c plan (after as) (.advance k)
    · exact Or.inr makes
    · left
      refine ⟨(same_or_makes u as (.advance k)).resolve_right makes, ?_⟩
      rw [goes.shown]
      cases goes.moves.writes with
      | nothing same silent | keep v c plan here changed silent => rw [silent u k, List.append_nil]
      | publish v c plan here ds changed goal =>
        subst here goal
        have hv : v ≠ u := by
          rintro rfl
          rcases goes.moves.change_cases with ⟨_, _, silent⟩ | ⟨turn, _⟩ | ⟨turn, _⟩
          · cases (shownIn_publish v k ds _).symm.trans (silent v k)
          · exact makes ⟨k, c, plan, rfl, goes.found, turn⟩
          · exact makes ⟨k, c, plan, rfl, goes.found, turn⟩
        rw [shownIn_publish_ne hv, List.append_nil]
  · exact Or.inl same

theorem Makes.shown {c : Change} {plan : Plan} (h : Makes u k c plan (after as) a)
    (on : c.isOfDiagnostics = true) : published u (as ++ [a]) ≠ [] := by
  obtain ⟨rfl, there, turn⟩ := h
  have goes := goesOn_of_ready there (canGoOn_of_turn turn)
  rcases goes.moves.change_cases with ⟨busy, _⟩ | ⟨_, off, _⟩ | ⟨_, _, _, ds, _, hn⟩
  · cases turn.symm.trans busy
  · cases on.symm.trans off
  · rw [goes.shown, hn, shownIn_publish]
    simp

/-- A task that applies a quick fix does so until nothing is left for it to do. -/
theorem Moves.appliesFix (h : Moves s id st t next) (hs : st.AppliesFix u)
    (hn : next.subject? = some u) : next.AppliesFix u := by
  cases hs with
  | begin code value =>
    cases h
    exact .find code value
  | find code value =>
    cases h with
    | queue a busy => exact .find code value
    | unfound => cases hn
    | apply v code value turn d found => exact .asking _ d
  | asking edit d => cases h
  | told d x =>
    cases h with
    | applied v d x made => exact .takes d
    | refused => cases hn
  | takes d =>
    cases h with
    | queue a busy => exact .takes d
    | publish v c plan turn store ds changed => cases hn
    | keep v c plan turn store changed t next resumes => cases congrArg Prod.snd changed

/-- The close, task `k`, has not forgotten the document yet. Whatever else is about the document
applies a quick fix. -/
structure Unforgotten (u : Url) (k : Nat) (before rest : List Action) : Prop where
  not_yet : ¬ Forgotten u k before rest
  closing : ∃ st, (after (before ++ rest)).tasks.get? k = some st ∧ st.Closes u
  about : ∀ l st, (after (before ++ rest)).tasks.get? l = some st → st.subject? = some u →
    st.AppliesFix u ∨ l = k ∧ st.Closes u

/-- The close, task `k`, has forgotten the document. There is an entry for it if a quick fix has made
one since, and nothing is in that. -/
structure LeftBehind (u : Url) (k : Nat) (before rest : List Action) : Prop where
  forgotten : Forgotten u k before rest
  about : ∀ l st, (after (before ++ rest)).tasks.get? l = some st → st.subject? = some u →
    st.AppliesFix u
  shown : published u (before ++ rest) ≠ []
  entry : (after (before ++ rest)).store.get? u = none ∧ ¬ TakenOutLate u k before rest ∨
    (after (before ++ rest)).store.get? u = some {} ∧ TakenOutLate u k before rest

theorem TakenOutLate.forgotten (h : TakenOutLate u k before rest) : Forgotten u k before rest := by
  obtain ⟨earlier, a, later, rfl, ⟨first, b, second, rfl, makes⟩, _⟩ := h
  exact ⟨first, b, second ++ a :: later, by simp, makes⟩

theorem LeftBehind.empty (h : LeftBehind u k before rest) :
    (after (before ++ rest)).store.findings u = {} := by
  rcases h.entry with ⟨hn, _⟩ | ⟨hs, _⟩
  · simp [Store.findings, hn]
  · simp [Store.findings, hs]

/-- Taking something out of nothing makes an entry in which nothing is. -/
theorem get?_remove_of_empty {store : Store} (empty : store.findings u = {}) (d : Diagnostic) :
    (store.change u (.remove [d] false none)).1.get? u = some {} := by
  simp [Store.change, empty, Findings.remove, Findings.without]

/-- A close that can be called for the document beside quick fixes goes on to forget it. -/
theorem Unforgotten.snoc (h : Unforgotten u k before rest)
    (called : ∀ l job, a = .call l job → job.subject? = some u →
      ∃ code value, job = .quickFix u code value)
    (kept : a ≠ .drop k) :
    Unforgotten u k before (rest ++ [a]) ∨ LeftBehind u k before (rest ++ [a]) := by
  have about : ∀ l st, (after (before ++ (rest ++ [a]))).tasks.get? l = some st →
      st.subject? = some u → st.AppliesFix u ∨ l = k ∧ st.Closes u := by
    rw [← List.append_assoc]
    refine about_snoc h.about ?_ ?_ ?_ ?_
    · intro l job ha hu
      obtain ⟨code, value, rfl⟩ := called l job ha hu
      exact Or.inl (.begin code value)
    · rintro l st t next moves hn (fixes | ⟨rfl, closes⟩)
      · exact Or.inl (moves.appliesFix fixes hn)
      · exact Or.inr ⟨rfl, moves.closes closes hn⟩
    · rintro l c plan x (⟨⟨⟩⟩ | ⟨_, ⟨⟩⟩)
      exact Or.inl (.told _ x)
    · rintro l p settings (⟨⟨⟩⟩ | ⟨_, ⟨⟩⟩)
  by_cases makes : Makes u k .purge (.finish .nothing) (after (before ++ rest)) a
  · right
    have empty : (after (before ++ (rest ++ [a]))).store.get? u = none := by
      rw [← List.append_assoc, makes.store]
      exact Keyed.get?_erase_self ..
    refine ⟨occurs_snoc.mpr (Or.inr makes), ?_, ?_, Or.inl ⟨empty, ?_⟩⟩
    · intro l st there hu
      rcases about l st there hu with fixes | ⟨rfl, closes⟩
      · exact fixes
      · -- The close has just gone on, and is not about the document any more.
        obtain ⟨rfl, found, turn⟩ := makes
        have goes := goesOn_of_ready found (canGoOn_of_turn turn)
        rw [← List.append_assoc] at there
        obtain rfl := goes.eq_next there
        rcases goes.moves.change_cases with ⟨busy, _⟩ | ⟨_, off, _⟩ | ⟨_, _, _, ds, _, hn⟩
        · cases turn.symm.trans busy
        · cases off
        · rw [hn] at hu
          cases hu
    · rw [← List.append_assoc]
      exact makes.shown rfl
    · intro late
      rcases occurs_snoc.mp late with late | ⟨forgotten, _⟩
      · exact h.not_yet (TakenOutLate.forgotten late)
      · exact h.not_yet forgotten
  · refine Or.inl ⟨fun hf => (occurs_snoc.mp hf).elim h.not_yet makes, ?_, about⟩
    obtain ⟨st, found, closes⟩ := h.closing
    rw [← List.append_assoc]
    rcases advance_or_hears found kept with ⟨t, next, rfl, goes⟩ | ⟨next, there, hears⟩
    · cases closes with
      | begin =>
        have moves := goes.moves
        cases moves
        exact ⟨_, goes.self nofun, .purge⟩
      | purge =>
        have moves := goes.moves
        cases moves with
        | queue a busy => exact ⟨_, goes.self nofun, .purge⟩
        | publish v c plan turn store ds changed => exact (makes ⟨rfl, found, turn⟩).elim
        | keep v c plan turn store changed => cases congrArg Prod.snd changed
    · cases closes <;> cases hears
      · exact ⟨_, there, .begin⟩
      · exact ⟨_, there, .purge⟩

theorem LeftBehind.snoc (h : LeftBehind u k before rest)
    (called : ∀ l job, a = .call l job → job.subject? = some u →
      ∃ code value, job = .quickFix u code value) :
    LeftBehind u k before (rest ++ [a]) := by
  refine ⟨occurs_snoc.mpr (Or.inl h.forgotten), ?_, ?_, ?_⟩ <;> rw [← List.append_assoc]
  · refine about_snoc (P := fun _ st => st.AppliesFix u) h.about ?_ ?_ ?_ ?_
    · intro l job ha hu
      obtain ⟨code, value, rfl⟩ := called l job ha hu
      exact .begin code value
    · intro l st t next moves hn fixes
      exact moves.appliesFix fixes hn
    · rintro l c plan x ⟨⟩
      exact .told _ x
    · rintro l p settings ⟨⟩
  · rw [published_after]
    simp [h.shown]
  · by_cases makes : ∃ l c plan, Makes u l c plan (after (before ++ rest)) a
    · obtain ⟨l, c, plan, makes⟩ := makes
      have fixes := h.about l _ makes.there rfl
      cases fixes with
      | takes d =>
        right
        rw [makes.store]
        exact ⟨get?_remove_of_empty h.empty d, occurs_snoc.mpr (Or.inr ⟨h.forgotten, l, d, makes⟩)⟩
    · rcases unchanged_or_makes u (before ++ rest) a with ⟨same, _⟩ | hm
      · rw [same]
        refine h.entry.imp (And.imp_right fun unmade late => ?_)
          (And.imp_right fun late => occurs_snoc.mpr (Or.inl late))
        rcases occurs_snoc.mp late with late | ⟨_, l, d, taken⟩
        · exact unmade late
        · exact makes ⟨l, _, _, taken⟩
      · exact (makes hm).elim

/-- A close goes on to forget the document, and there is an entry for it again only if a quick fix
makes one. -/
theorem unforgotten_or_leftBehind (closes : (after before).tasks.get? k = some (.fresh (.close u)))
    (fixing : ∀ l st, (after before).tasks.get? l = some st → l ≠ k → st.subject? = some u →
      st.AppliesFix u)
    (called : ∀ l job, .call l job ∈ rest → job.subject? = some u →
      ∃ code value, job = .quickFix u code value)
    (kept : .drop k ∉ rest) :
    Unforgotten u k before rest ∨ LeftBehind u k before rest := by
  induction rest using List.reverseRecOn with
  | nil =>
    refine Or.inl ⟨not_occurs_nil _, ⟨_, by simpa using closes, .begin⟩, ?_⟩
    intro l st there hu
    rw [List.append_nil] at there
    by_cases hl : l = k
    · subst hl
      cases closes.symm.trans there
      exact Or.inr ⟨rfl, .begin⟩
    · exact Or.inl (fixing l st there hl hu)
  | append_singleton rest a ih =>
    have called' : ∀ l job, a = .call l job → job.subject? = some u →
        ∃ code value, job = .quickFix u code value := by
      rintro l job rfl hu
      exact called l job (by simp) hu
    rcases ih (fun l job hj => called l job (List.mem_append_left _ hj))
        (fun hd => kept (List.mem_append_left _ hd)) with h | h
    · refine h.snoc called' ?_
      rintro rfl
      exact kept (by simp)
    · exact Or.inr (h.snoc called')

/-- Quick fixes against a close of their document, in whatever order the tasks go on and the editor
answers: once all are over, an empty list is what was last published for the document. Nothing is
stored for it, not even an empty entry, unless a quick fix has taken out what it has found after the
close had forgotten the document. -/
theorem close_against_fixes (u : Url) (k : Nat) (before rest : List Action)
    (closes : (after before).tasks.get? k = some (.fresh (.close u)))
    (fixing : ∀ l st, (after before).tasks.get? l = some st → l ≠ k → st.subject? = some u →
      st.AppliesFix u)
    (called : ∀ l job, .call l job ∈ rest → job.subject? = some u →
      ∃ code value, job = .quickFix u code value)
    (kept : .drop k ∉ rest)
    (ended : ∀ l st, (after (before ++ rest)).tasks.get? l = some st → st.subject? ≠ some u) :
    (published u (before ++ rest)).getLast? = some [] ∧
    ((after (before ++ rest)).store.get? u = none ↔ ¬ TakenOutLate u k before rest) ∧
    ((after (before ++ rest)).store.get? u = some {} ↔ TakenOutLate u k before rest) := by
  rcases unforgotten_or_leftBehind closes fixing called kept with h | h
  · obtain ⟨st, there, closes⟩ := h.closing
    refine (ended k st there ?_).elim
    cases closes <;> rfl
  · obtain ⟨ds, hd⟩ := Option.isSome_iff_exists.mp (List.getLast?_isSome.mpr h.shown)
    refine ⟨?_, ?_, ?_⟩
    · rw [hd, ← (stored_after u _).1 ds hd, h.empty]
    · rcases h.entry with ⟨hn, unmade⟩ | ⟨hs, late⟩
      · simp [hn, unmade]
      · simp [hs, late]
    · rcases h.entry with ⟨hn, unmade⟩ | ⟨hs, late⟩
      · simp [hn, unmade]
      · simp [hs, late]

/-- A document is opened and linted. Then come a call for a quick fix and one to close it. -/
def fixAndClose (u : Url) : List Action :=
  (untilFix u).take 19 ++ [.call 1 (.quickFix u "kindlint-1" "people"), .call 2 (.close u)]

theorem tasks_fixAndClose : (after (fixAndClose notes)).tasks =
    ⟨[(1, .fresh (.quickFix notes "kindlint-1" "people")), (2, .fresh (.close notes))]⟩ := by
  with_unfolding_all rfl

/-- The editor makes the edit at once. The close has to wait until the fix has shown what it leaves. -/
def fixFirst : List Action :=
  [.advance 1, .advance 1, .advance 2, .answer 1 {}, .advance 1, .advance 1, .advance 2, .answer 1 {},
    .advance 1, .advance 2, .answer 2 {}, .advance 2]

/-- The document is closed while the editor makes the edit. -/
def closeFirst : List Action :=
  [.advance 1, .advance 1, .advance 2, .advance 2, .answer 2 {}, .advance 2, .answer 1 {}, .advance 1,
    .advance 1, .answer 1 {}, .advance 1]

/-- A close that has to wait for a quick fix leaves nothing behind. -/
theorem close_behind_fix :
    (published notes (fixAndClose notes ++ fixFirst)).getLast? = some [] ∧
    (after (fixAndClose notes ++ fixFirst)).store.get? notes = none ∧
    ¬ TakenOutLate notes 2 (fixAndClose notes) fixFirst := by
  have gone : (after (fixAndClose notes ++ fixFirst)).store.get? notes = none := by
    have missing : (after (fixAndClose notes ++ fixFirst)).store.contains notes = false := by
      decide +kernel
    simpa [Keyed.contains] using missing
  have main := close_against_fixes notes 2 (fixAndClose notes) fixFirst ?_ ?_ ?_ ?_ ?_
  · exact ⟨main.1, gone, main.2.1.mp gone⟩
  · rw [tasks_fixAndClose]
    rfl
  · intro l st there hl _
    rw [tasks_fixAndClose] at there
    have first := Keyed.mem_of_find there
    simp only [List.mem_cons, Prod.mk.injEq, hl, false_and, or_false, List.not_mem_nil] at first
    exact first.2 ▸ .begin _ _
  · simp [fixFirst]
  · simp [fixFirst]
  · have none_left : (after (fixAndClose notes ++ fixFirst)).tasks.entries.length = 0 := by
      decide +kernel
    intro l st there
    rw [Keyed.get?_of_no_entries none_left] at there
    cases there

/-- A quick fix that takes out what it has found after the document has been closed makes an entry for
it, which is there when both are over. -/
theorem entry_behind_close :
    (after (fixAndClose notes)).tasks =
      ⟨[(1, .fresh (.quickFix notes "kindlint-1" "people")), (2, .fresh (.close notes))]⟩ ∧
    (∀ l job, .call l job ∉ closeFirst) ∧ (∀ d, .openDocument notes d ∉ closeFirst) ∧
    (after (fixAndClose notes ++ closeFirst)).tasks.entries.length = 0 ∧
    (after (fixAndClose notes ++ closeFirst)).isOpen notes = false ∧
    (after (fixAndClose notes ++ closeFirst)).store.contains notes = true :=
  ⟨tasks_fixAndClose, by simp [closeFirst], by simp [closeFirst], by decide +kernel,
    by decide +kernel, by decide +kernel⟩

end Session

end Considerate
