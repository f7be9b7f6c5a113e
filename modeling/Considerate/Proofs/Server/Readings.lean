import Considerate.Proofs.Server.Actions
import Considerate.Proofs.Session.AfterFix

namespace Considerate

/-- Only findings of a pass bring quick fixes that were not stored before. -/
theorem Store.fixes_of_change {s : Store} {u : Url} {c : Change}
    (unstored : ∀ ds fixes, c ≠ .replace ds fixes) {code : String} {fixes : List QuickFix}
    (h : ((s.change u c).1.findings u).fixes.get? code = some fixes) :
    (s.findings u).fixes.get? code = some fixes := by
  cases c with
  | replace ds fixes => exact (unstored ds fixes rfl).elim
  | clear =>
    rw [findings_clear] at h
    cases h
  | remove removed wholeFamily shiftFrom =>
    simp only [change, findings_set_self, Findings.remove, Keyed.get?, Keyed.find_filter] at h
    exact (Option.ite_none_right_eq_some.mp h).2
  | purge =>
    rw [findings_purge] at h
    cases h
  | record a => rwa [fixes_record] at h

namespace Session

variable {u : Url} {k : Nat} {parts : List Part} {v : View} {called before rest : List Action}
  {a : Action} {st : Stage}

theorem fixes_stored (unstored : ∀ earlier a later, rest = earlier ++ a :: later →
      ¬ Stores u (after (before ++ earlier)) a) {code : String} {fixes : List QuickFix}
    (h : ((after (before ++ rest)).store.findings u).fixes.get? code = some fixes) :
    ((after before).store.findings u).fixes.get? code = some fixes := by
  induction rest using List.reverseRecOn with
  | nil => rwa [List.append_nil] at h
  | append_singleton rest a ih =>
    refine ih (fun earlier b later he => unstored earlier b (later ++ [a]) (by simp [he])) ?_
    rw [← List.append_assoc] at h
    rcases same_or_changed u (before ++ rest) a with same | ⟨k, c, plan, rfl, found, turn, changed⟩
    · rwa [Store.findings, same] at h
    · rw [changed] at h
      refine Store.fixes_of_change ?_ h
      rintro ds fixes rfl
      exact unstored rest (.advance k) [] rfl ⟨k, ds, fixes, plan, rfl, found, turn⟩

/-- Task `k` is at the store to read a part of the document, and has its turn. -/
def ReadsPart (u : Url) (k : Nat) (part : Part) (s : Session) : Prop :=
  (∃ later v, s.tasks.get? k = some (.store (.read u (part :: later) v))) ∧
    (s.turns.request k).isHeldBy k = true

/-- What task `k` has read of the document since it was called: part after part, each from what was
stored when it had a turn in the store. The last action is that of the last reading. -/
inductive Reads (u : Url) (k : Nat) (called : List Action) : List Part → View → List Action → Prop
  | nothing : Reads u k called [] {} []
  | next (parts : List Part) (part : Part) (later : List Part) (v : View)
      (earlier between : List Action) (reads : Reads u k called parts v earlier)
      (there : (after (called ++ (earlier ++ between))).tasks.get? k =
        some (.store (.read u (part :: later) v)))
      (turn : ((after (called ++ (earlier ++ between))).turns.request k).isHeldBy k = true) :
      Reads u k called (parts ++ [part])
        ((after (called ++ (earlier ++ between))).readPart u v part)
        (earlier ++ between ++ [.advance k])

theorem Reads.none (h : Reads u k called [] v rest) : v = {} ∧ rest = [] := by
  generalize hp : [] = all at h
  cases h with
  | nothing => exact ⟨rfl, rfl⟩
  | next => simp at hp

theorem Reads.last (parts : List Part) (part : Part)
    (h : Reads u k called (parts ++ [part]) v rest) :
    ∃ w earlier between, rest = earlier ++ between ++ [.advance k] ∧
      Reads u k called parts w earlier ∧ ReadsPart u k part (after (called ++ (earlier ++ between))) ∧
      v = (after (called ++ (earlier ++ between))).readPart u w part := by
  generalize hp : parts ++ [part] = all at h
  cases h with
  | nothing => simp at hp
  | next done last later w earlier between reads there turn =>
    obtain ⟨rfl, hl⟩ := List.append_inj' hp rfl
    cases hl
    exact ⟨w, earlier, between, rfl, reads, ⟨⟨later, w, there⟩, turn⟩, rfl⟩

/-- The stages of task `k` since it was called to read parts of the document. -/
inductive Reading (u : Url) (k : Nat) (called : List Action) (parts : List Part)
    (rest : List Action) : Stage → Prop
  | fresh : Reading u k called parts rest (.fresh (.read u parts))
  | store (done : List Part) (part : Part) (later : List Part) (v : View)
      (earlier between : List Action) (split : parts = done ++ part :: later)
      (past : rest = earlier ++ between) (reads : Reads u k called done v earlier) :
      Reading u k called parts rest (.store (.read u (part :: later) v))

theorem Reading.snoc (h : Reading u k called parts rest st) (a : Action) :
    Reading u k called parts (rest ++ [a]) st := by
  cases h with
  | fresh => exact .fresh
  | store done part later v earlier between split past reads =>
    exact .store done part later v earlier (between ++ [a]) split (by simp [past]) reads

/-- A task that reads has read another part when it goes on in its turn. -/
theorem Reading.moves {t : Session} {next : Stage} (h : Reading u k called parts rest st)
    (wanted : parts ≠ []) (found : (after (called ++ rest)).tasks.get? k = some st)
    (moves : Moves (after (called ++ rest)) k st t next) :
    Reading u k called parts (rest ++ [.advance k]) next ∨
      ∃ v, next = .done (.view v) ∧ Reads u k called parts v (rest ++ [.advance k]) := by
  cases h with
  | fresh =>
    cases moves
    obtain ⟨part, later, rfl⟩ := List.exists_cons_of_ne_nil wanted
    exact Or.inl (.store [] part later {} [] _ rfl rfl .nothing)
  | store done part later v earlier between split past reads =>
    subst past
    cases moves with
    | queue x busy => exact Or.inl (.snoc (.store done part later v earlier between split rfl reads) _)
    | readLast _ _ _ turn =>
      exact Or.inr ⟨_, rfl, split ▸ .next done part [] v earlier between reads found turn⟩
    | readNext _ _ another later _ turn =>
      refine Or.inl (.store (done ++ [part]) another later _ _ [] (by simp [split])
        (List.append_nil _).symm ?_)
      exact .next done part _ v earlier between reads found turn

theorem reading_after (fresh : (after called).tasks.get? k = some (.fresh (.read u parts)))
    (wanted : parts ≠ []) (once : ∀ job, .call k job ∉ rest)
    (there : (after (called ++ rest)).tasks.get? k = some st) :
    Reading u k called parts rest st := by
  induction rest using List.reverseRecOn generalizing st with
  | nil =>
    rw [List.append_nil] at there
    cases there.symm.trans fresh
    exact .fresh
  | append_singleton rest a ih =>
    have ih := fun {st} => @ih st fun job hj => once job (List.mem_append_left _ hj)
    rw [← List.append_assoc, after_snoc] at there
    cases (step_act (after (called ++ rest)) a).arises there with
    | stays a found => exact (ih found).snoc a
    | called job => exact (once job (by simp)).elim
    | answered c plan x found => cases ih found
    | linted p settings found => cases ih found
    | moved old t found ready moves result sight =>
      rcases (ih found).moves wanted found moves with reading | ⟨v, rfl, _⟩
      · exact reading
      · rw [result] at there
        cases (Keyed.get?_erase_self ..).symm.trans there

theorem reads_of_finished (fresh : (after called).tasks.get? k = some (.fresh (.read u parts)))
    (wanted : parts ≠ []) (once : ∀ job, .call k job ∉ rest)
    (finished : .finished k (.view v) ∈ ((after (called ++ rest)).act (.advance k)).2) :
    Reads u k called parts v (rest ++ [.advance k]) := by
  have hs := step_act (after (called ++ rest)) (.advance k)
  generalize ((after (called ++ rest)).act (.advance k)).1 = r,
    ((after (called ++ rest)).act (.advance k)).2 = es at *
  cases hs with
  | rest => cases finished
  | advance _ st found ready t next moves =>
    have done : next = .done (.view v) := by
      rcases List.mem_append.mp finished with woken | ends
      · obtain ⟨_, _, he⟩ := List.mem_map.mp woken
        cases he
      · cases next <;> simp [seen] at ends
        rw [ends]
    rcases (reading_after fresh wanted once found).moves wanted found moves with reading | ⟨w, he, reads⟩
    · rw [done] at reading
      cases reading
    · cases done.symm.trans he
      exact reads

/-- The quick fixes that are stored for a diagnostic were stored for it before, as long as no findings
are stored. -/
theorem fixesOf_subset (unstored : ∀ earlier a later, rest = earlier ++ a :: later →
      ¬ Stores u (after (before ++ earlier)) a) (d : Diagnostic) :
    ((after (before ++ rest)).store.findings u).fixesOf d ⊆
      ((after before).store.findings u).fixesOf d := by
  intro fix hf
  unfold Findings.fixesOf at hf ⊢
  cases hc : d.codeText with
  | none =>
    rw [hc] at hf
    cases hf
  | some code =>
    rw [hc, Option.bind_some] at hf
    cases found : ((after (before ++ rest)).store.findings u).fixes.get? code with
    | none =>
      rw [found] at hf
      cases hf
    | some fixes =>
      rw [found] at hf
      rw [Option.bind_some, fixes_stored unstored found]
      exact hf

end Session

namespace CodeAction

variable {u : Url} {range : Range} {f : Findings} {a : CodeAction}

theorem mem_fixesOf (h : a ∈ offered u range f) : a.fix ∈ f.fixesOf a.diagnostic := by
  have pair : (a.diagnostic, a.fix) ∈ f.pairsAt range := by
    rw [← pairs_offered u range f]
    exact List.mem_map_of_mem h
  obtain ⟨d, _, hp⟩ := List.mem_flatMap.mp pair
  obtain ⟨fix, hf, he⟩ := List.mem_map.mp hp
  cases he
  exact hf

end CodeAction

namespace Session

/-- A task that reads what is stored for a document, to answer a request for the actions at a range,
reads the diagnostics and then, in another turn, the quick fixes. One action is offered for each
diagnostic at the range that was stored at the first time and each quick fix that was stored for its
code at the second. If no pass has stored its findings for the document in between, then each
diagnostic is offered with a quick fix that was stored for it at the first time. -/
theorem actions_pair_readings (u : Url) (range : Range) (k : Nat) (v : View)
    (before rest : List Action) (new : (after before).tasks.contains k = false)
    (once : ∀ job, .call k job ∉ rest)
    (finished : .finished k (.view v) ∈
      ((after (before ++ .call k (.read u [.diagnostics, .fixes]) :: rest)).act (.advance k)).2) :
    (∀ (server : Server) rid, (server.conclude (.actions rid u range) (.view v)).2 =
      [.answered rid (.ok (.arr ((CodeAction.offered u range v.findings).map CodeAction.toJson)))]) ∧
    ∃ first between, rest = first ++ .advance k :: between ∧
      let untilFirst := before ++ .call k (.read u [.diagnostics, .fixes]) :: first
      let atFirst := (after untilFirst).store.findings u
      let atSecond := (after (untilFirst ++ .advance k :: between)).store.findings u
      ReadsPart u k .diagnostics (after untilFirst) ∧
      ReadsPart u k .fixes (after (untilFirst ++ .advance k :: between)) ∧
      (CodeAction.offered u range v.findings).map (fun a => (a.diagnostic, a.fix)) =
        Findings.pairsAt { diagnostics := atFirst.diagnostics, fixes := atSecond.fixes } range ∧
      ((∀ earlier a later, between = earlier ++ a :: later →
          ¬ Stores u (after (untilFirst ++ .advance k :: earlier)) a) →
        ∀ a ∈ CodeAction.offered u range v.findings,
          a.diagnostic ∈ atFirst.diagnostics ∧ a.fix ∈ atFirst.fixesOf a.diagnostic) := by
  refine ⟨fun _ _ => rfl, ?_⟩
  have fresh : (after (before ++ [.call k (.read u [.diagnostics, .fixes])])).tasks.get? k =
      some (.fresh (.read u [.diagnostics, .fixes])) := by
    rw [after_snoc, act, new]
    exact Keyed.get?_set_self ..
  rw [List.append_cons] at finished
  have both := reads_of_finished fresh (by simp) once finished
  obtain ⟨w, earlier, between, ends, one, second, rfl⟩ := Reads.last [.diagnostics] .fixes both
  obtain ⟨_, _, first, rfl, no, there, rfl⟩ := Reads.last [] .diagnostics one
  obtain ⟨rfl, -⟩ := List.append_inj' ends rfl
  obtain ⟨rfl, rfl⟩ := no.none
  refine ⟨first, between, by simp, ?_⟩
  dsimp only
  rw [List.append_cons before _ first]
  generalize before ++ [.call k (.read u [.diagnostics, .fixes])] = called at *
  rw [List.nil_append] at *
  have whole : called ++ first ++ .advance k :: between =
      called ++ (first ++ [.advance k] ++ between) := by simp
  refine ⟨there, whole ▸ second, ?_, ?_⟩
  · rw [CodeAction.pairs_offered, whole]
    rfl
  · intro unstored a ha
    obtain ⟨-, listed, -⟩ := CodeAction.mem_offered ha
    have unstored : ∀ earlier b later, .advance k :: between = earlier ++ b :: later →
        ¬ Stores u (after (called ++ first ++ earlier)) b := by
      intro earlier b later he
      cases earlier with
      | nil =>
        rintro ⟨l, ds, fixes, plan, rfl, found, _⟩
        cases he
        obtain ⟨⟨later, v, reading⟩, _⟩ := there
        rw [List.append_nil, reading] at found
        cases found
      | cons c earlier =>
        cases he
        exact unstored earlier b later rfl
    have now := CodeAction.mem_fixesOf ha
    refine ⟨listed, fixesOf_subset unstored _ ?_⟩
    rw [whole]
    exact now

def viewsOf (k : Nat) (es : List Effect) : List View :=
  es.filterMap fun
    | .finished l (.view v) => if l = k then some v else none
    | _ => none

theorem finished_of_mem_viewsOf {es : List Effect} (h : v ∈ viewsOf k es) :
    .finished k (.view v) ∈ es := by
  obtain ⟨e, he, hv⟩ := List.mem_filterMap.mp h
  split at hv
  · obtain ⟨rfl, rfl⟩ := Option.ite_none_right_eq_some.mp hv |>.imp_right Option.some.inj
    exact he
  · cases hv

/-- A quick fix is about to take out the first of two diagnostics. -/
def untilTaken (u : Url) : List Action := untilApplied u "guys slave" "kindlint-1" "people"

/-- It does so between the two readings of another task. -/
def takenBetween : List Action :=
  [.advance 2, .advance 2, .advance 1, .answer 1 {}, .advance 1]

/-- Nothing is offered for a diagnostic that is taken out between the readings. -/
theorem actions_pair_readings_around_fix :
    let range : Range := ⟨⟨0, 0⟩, ⟨0, 10⟩⟩
    let called := .call 2 (.read notes [.diagnostics, .fixes])
    ∃ v, .finished 2 (.view v) ∈
        ((after (untilTaken notes ++ called :: takenBetween)).act (.advance 2)).2 ∧
      (CodeAction.offered notes range v.findings).map (fun a => a.fix.value) =
        ["secondary", "replica", "follower"] ∧
      ∃ first between, takenBetween = first ++ .advance 2 :: between ∧
        let untilFirst := untilTaken notes ++ called :: first
        let atFirst := (after untilFirst).store.findings notes
        ReadsPart notes 2 .diagnostics (after untilFirst) ∧
        ReadsPart notes 2 .fixes (after (untilFirst ++ .advance 2 :: between)) ∧
        ((∀ earlier a later, between = earlier ++ a :: later →
            ¬ Stores notes (after (untilFirst ++ .advance 2 :: earlier)) a) →
          ∀ a ∈ CodeAction.offered notes range v.findings,
            a.diagnostic ∈ atFirst.diagnostics ∧ a.fix ∈ atFirst.fixesOf a.diagnostic) := by
  intro range called
  have values : (viewsOf 2
      ((after (untilTaken notes ++ called :: takenBetween)).act (.advance 2)).2).map
        (fun v => (CodeAction.offered notes range v.findings).map fun a => a.fix.value) =
      [["secondary", "replica", "follower"]] := by decide +kernel
  obtain ⟨v, hv, offered⟩ := List.map_eq_singleton_iff.mp values
  have finished := @finished_of_mem_viewsOf 2 v _ (by rw [hv]; exact List.mem_singleton_self v)
  obtain ⟨-, first, between, split, one, other, -, stood⟩ := actions_pair_readings notes range 2 v
    (untilTaken notes) takenBetween (by decide +kernel) (by simp [takenBetween]) finished
  exact ⟨v, finished, offered, first, between, split, one, other, stood⟩

/-- A document is opened and linted, and changes. A format pass on it has its findings ready while
another document is being closed, which holds the store. -/
def untilReady (u : Url) : List Action :=
  (untilFix u).take 19 ++ [.changeText u "the slave" 2, .call 3 (.close Server.page), .advance 3,
    .advance 3, .call 2 (.validate ⟨u, { format := true }⟩), .advance 2, .answer 2 {}, .advance 2,
    .advance 2, .linted 2, .advance 2]

/-- A task that reads comes to the store before the pass, and is behind it for the second part. -/
def storedBetween : List Action :=
  [.advance 1, .advance 1, .advance 2, .answer 3 {}, .advance 3, .advance 1, .advance 1, .advance 2,
    .answer 2 {}, .advance 2]

/-- A diagnostic of one pass is offered with a quick fix for one of another pass, with which it was
stored at no time. -/
theorem actions_of_two_passes :
    let called := .call 1 (.read notes [.diagnostics, .fixes])
    let run := untilReady notes ++ called :: storedBetween
    ∃ v, .finished 1 (.view v) ∈ ((after run).act (.advance 1)).2 ∧
      ∃ a ∈ CodeAction.offered notes ⟨⟨0, 0⟩, ⟨0, 0⟩⟩ v.findings, ∀ past, past <+: run →
        ¬ (a.diagnostic ∈ ((after past).store.findings notes).diagnostics ∧
          a.fix ∈ ((after past).store.findings notes).fixesOf a.diagnostic) := by
  intro called run
  have values : (viewsOf 1 ((after run).act (.advance 1)).2).map
      (fun v => (CodeAction.offered notes ⟨⟨0, 0⟩, ⟨0, 0⟩⟩ v.findings).map
        fun a => (a.diagnostic.message, a.fix.value)) =
      [[("`guys` may be insensitive", "secondary"), ("`guys` may be insensitive", "replica"),
        ("`guys` may be insensitive", "follower")]] := by decide +kernel
  have apart : ∀ n ∈ List.range (run.length + 1),
      ∀ d ∈ ((after (run.take n)).store.findings notes).diagnostics,
      ∀ fix ∈ ((after (run.take n)).store.findings notes).fixesOf d,
        ¬ (d.message = "`guys` may be insensitive" ∧ fix.value = "secondary") := by decide +kernel
  obtain ⟨v, hv, offered⟩ := List.map_eq_singleton_iff.mp values
  obtain ⟨a, others, ho, ha, -⟩ := List.map_eq_cons_iff.mp offered
  obtain ⟨message, value⟩ := Prod.mk.inj ha
  refine ⟨v, finished_of_mem_viewsOf (by rw [hv]; exact List.mem_singleton_self v), a,
    by simp [ho], ?_⟩
  rintro past hp ⟨hd, hf⟩
  rw [List.prefix_iff_eq_take.mp hp] at hd hf
  refine apart past.length ?_ _ hd _ hf ⟨message, value⟩
  exact List.mem_range.mpr (Nat.lt_succ_of_le hp.length_le)

end Session

end Considerate
