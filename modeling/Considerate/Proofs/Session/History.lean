import Considerate.Proofs.History
import Considerate.Proofs.Session.Moves
import Mathlib.Data.List.Induction

namespace Considerate.Session

/-- The state after the actions, from a session in which nothing has happened. -/
def after (as : List Action) : Session := as.foldl (fun s a => (s.act a).1) {}

@[simp] theorem after_nil : after [] = {} := rfl

@[simp] theorem after_snoc (as : List Action) (a : Action) :
    after (as ++ [a]) = ((after as).act a).1 := by
  simp [after]

def Effect.shown? (u : Url) : Effect → Option (List Diagnostic)
  | .called _ (.publish v ds) => if v = u then some ds else none
  | _ => none

/-- All that has been shown for a document, the last at the end. -/
def published (u : Url) (as : List Action) : List (List Diagnostic) :=
  gather (fun (s : Session) a => (s.act a).1)
    (fun s a => (s.act a).2.filterMap (Effect.shown? u)) {} as

@[simp] theorem published_nil (u : Url) : published u [] = [] := rfl

theorem published_snoc (u : Url) (as : List Action) (a : Action) :
    published u (as ++ [a]) =
      published u as ++ ((after as).act a).2.filterMap (Effect.shown? u) := by
  rw [published, gather_snoc]
  rfl

/-- What an action can do, case by case. -/
inductive Step (s : Session) : Action → Session → List Effect → Prop
  | call (id : Nat) (job : Job) (new : s.tasks.contains id = false) :
      Step s (.call id job) (s.put id (.fresh job)) [.woken id]
  | known (id : Nat) (job : Job) (old : s.tasks.contains id = true) : Step s (.call id job) s []
  | advance (id : Nat) (st : Stage) (found : s.tasks.get? id = some st)
      (ready : s.canGoOn id st = true) (t : Session) (next : Stage) (moves : Moves s id st t next) :
      Step s (.advance id) (t.put id next)
        (((wokenSince s t).filter (· ≠ id)).map .woken ++ seen id next)
  | rest (id : Nat) (stuck : ∀ st, s.tasks.get? id = some st → s.canGoOn id st = false) :
      Step s (.advance id) s []
  | answer (id : Nat) (x : Answer) (c : Call) (next : Return)
      (found : s.tasks.get? id = some (.calling c next)) :
      Step s (.answer id x) (s.put id (.back next x)) [.woken id]
  | unheard (id : Nat) (x : Answer)
      (silent : ∀ c next, s.tasks.get? id ≠ some (.calling c next)) :
      Step s (.answer id x) s []
  | linted (id : Nat) (p : Pass) (settings : Settings)
      (found : s.tasks.get? id = some (.linting p settings)) :
      Step s (.linted id) (s.put id (.linted p settings)) [.woken id]
  | idle (id : Nat) : Step s (.linted id) s []
  | drop (id : Nat) (st : Stage) (found : s.tasks.get? id = some st) :
      Step s (.drop id) ({ s with tasks := s.tasks.erase id }.letGo id st)
        ((wokenSince s ({ s with tasks := s.tasks.erase id }.letGo id st)).map .woken)
  | gone (id : Nat) (missing : s.tasks.get? id = none) : Step s (.drop id) s []
  | openDocument (u : Url) (d : Document) : Step s (.openDocument u d) (s.openDocument u d) []
  | changeText (u : Url) (text : String) (version : Int32) :
      Step s (.changeText u text version) ((s.changeText u text version).getD s) []
  | invalidate (u : Option Url) : Step s (.invalidate u) (s.invalidate u) []
  | reload (files : Files) (root : String) : Step s (.reload files root) (s.reload files root) []

theorem act_advance {s : Session} {id : Nat} {st : Stage} (found : s.tasks.get? id = some st)
    (ready : s.canGoOn id st = true) :
    s.act (.advance id) = ((s.advance id st).1.put id (s.advance id st).2,
      ((wokenSince s (s.advance id st).1).filter (· ≠ id)).map .woken ++
        seen id (s.advance id st).2) := by
  simp only [act, found, ready, if_true]

theorem act_stuck {s : Session} {id : Nat}
    (stuck : ∀ st, s.tasks.get? id = some st → s.canGoOn id st = false) :
    s.act (.advance id) = (s, []) := by
  cases found : s.tasks.get? id with
  | none => simp [act, found]
  | some st => simp [act, found, stuck st found]

theorem step_act (s : Session) (a : Action) : Step s a (s.act a).1 (s.act a).2 := by
  cases a with
  | call id job =>
    cases h : s.tasks.contains id with
    | true =>
      simp only [act, h, if_true]
      exact .known id job h
    | false =>
      simp only [act, h]
      exact .call id job h
  | advance id =>
    cases h : s.tasks.get? id with
    | none =>
      simp only [act, h]
      exact .rest id (by simp [h])
    | some st =>
      cases hr : s.canGoOn id st with
      | true =>
        rw [act_advance h hr]
        exact .advance id st h hr _ _ (moves_advance s id st hr)
      | false =>
        simp only [act, h, hr]
        exact .rest id (by simp [h, hr])
  | answer id x =>
    simp only [act]
    split
    · exact .answer id x _ _ ‹_›
    · rename_i hn
      exact .unheard id x hn
  | linted id =>
    simp only [act]
    split
    · exact .linted id _ _ ‹_›
    · exact .idle id
  | drop id =>
    cases h : s.tasks.get? id with
    | none =>
      simp only [act, h]
      exact .gone id h
    | some st =>
      simp only [act, h]
      exact .drop id st h
  | openDocument u d => exact .openDocument u d
  | changeText u text version => exact .changeText u text version
  | invalidate u => exact .invalidate u
  | reload files root => exact .reload files root

theorem changeText_cases (s : Session) (u : Url) (text : String) (version : Int32) :
    (s.changeText u text version).getD s = s ∨
    ∃ d, (s.changeText u text version).getD s = s.openDocument u d := by
  unfold changeText
  cases s.documents.get? u with
  | none => exact Or.inl rfl
  | some d => exact Or.inr ⟨{ d with text, version }, rfl⟩

/-- Loading the settings of the workspace concerns these alone. -/
theorem reload_eq (s : Session) (files : Files) (root : String) :
    s.reload files root = { s with workspace := (s.reload files root).workspace } := by
  unfold reload
  split
  · rfl
  · split <;> rfl

/-- Putting a task at a stage concerns the tasks alone. -/
theorem put_eq (s : Session) (id : Nat) (st : Stage) :
    s.put id st = { s with tasks := (s.put id st).tasks } := by
  cases st <;> rfl

section
variable (s : Session) (id : Nat) (st : Stage)

@[simp] theorem documents_put : (s.put id st).documents = s.documents := by rw [put_eq]

@[simp] theorem cells_put : (s.put id st).cells = s.cells := by rw [put_eq]

@[simp] theorem schedule_put : (s.put id st).schedule = s.schedule := by rw [put_eq]

@[simp] theorem store_put : (s.put id st).store = s.store := by rw [put_eq]

end

theorem contains_eq_false {s : Session} {k : Nat} :
    s.tasks.contains k = false ↔ s.tasks.get? k = none := by
  simp [Keyed.contains]

theorem tasks_put_ne (s : Session) {id k : Nat} (st : Stage) (h : k ≠ id) :
    (s.put id st).tasks.get? k = s.tasks.get? k := by
  cases st
  case done => exact Keyed.get?_erase_ne _ h
  all_goals exact Keyed.get?_set_ne _ h _

theorem eq_of_tasks_put {s : Session} {id : Nat} {st st' : Stage}
    (h : (s.put id st).tasks.get? id = some st') : st' = st := by
  cases st
  case done => cases (Keyed.get?_erase_self ..).symm.trans h
  all_goals exact Option.some.inj (h.symm.trans (Keyed.get?_set_self ..))

theorem tasks_put_self (s : Session) (id : Nat) (st : Stage) :
    (s.put id st).tasks.get? id = some st ∧ (∀ v, st ≠ .done v) ∨
      (s.put id st).tasks.get? id = none ∧ ∃ v, st = .done v := by
  cases st
  case done v => exact Or.inr ⟨Keyed.get?_erase_self .., v, rfl⟩
  all_goals exact Or.inl ⟨Keyed.get?_set_self .., by simp⟩

theorem tasks_put_cases {s : Session} {id k : Nat} {st st' : Stage}
    (h : (s.put id st).tasks.get? k = some st') :
    k = id ∧ st' = st ∨ k ≠ id ∧ s.tasks.get? k = some st' := by
  by_cases hk : k = id
  · subst hk
    exact Or.inl ⟨rfl, eq_of_tasks_put h⟩
  · rw [tasks_put_ne s st hk] at h
    exact Or.inr ⟨hk, h⟩

theorem exists_put {β : Type} {f : Stage → Option β} (hf : ∀ v, f (.done v) = none)
    {s t : Session} (ht : t.tasks = s.tasks) {id : Nat} {next : Stage} (k : Nat) (x : β) :
    (∃ st, (t.put id next).tasks.get? k = some st ∧ f st = some x) ↔
      ((∃ st, s.tasks.get? k = some st ∧ f st = some x) ∧ k ≠ id) ∨ k = id ∧ f next = some x := by
  by_cases hk : k = id
  · subst hk
    constructor
    · intro ⟨st, hs, hx⟩
      rcases tasks_put_cases hs with ⟨_, rfl⟩ | ⟨hn, _⟩
      · exact Or.inr ⟨rfl, hx⟩
      · exact (hn rfl).elim
    · intro h
      rcases h with ⟨_, hn⟩ | ⟨_, hx⟩
      · exact (hn rfl).elim
      · rcases tasks_put_self t k next with ⟨hs, _⟩ | ⟨_, v, rfl⟩
        · exact ⟨next, hs, hx⟩
        · rw [hf] at hx
          cases hx
  · simp only [tasks_put_ne _ _ hk, ht, hk, ne_eq, not_false_eq_true, and_true, false_and, or_false]

/-- Nothing becomes known of a task that is put at a stage like the one before. -/
theorem exists_put_same {β : Type} {f : Stage → Option β} (hf : ∀ v, f (.done v) = none)
    {s t : Session} (ht : t.tasks = s.tasks) {id : Nat} {st next : Stage}
    (found : s.tasks.get? id = some st) (same : f next = f st) (k : Nat) (x : β) :
    (∃ st, (t.put id next).tasks.get? k = some st ∧ f st = some x) ↔
      ∃ st, s.tasks.get? k = some st ∧ f st = some x := by
  rw [exists_put hf ht, same]
  constructor
  · intro h
    rcases h with ⟨hx, _⟩ | ⟨rfl, hx⟩
    · exact hx
    · exact ⟨st, found, hx⟩
  · intro ⟨st', hs, hx⟩
    by_cases hk : k = id
    · subst hk
      rw [found, Option.some.injEq] at hs
      exact Or.inr ⟨rfl, hs ▸ hx⟩
    · exact Or.inl ⟨⟨st', hs, hx⟩, hk⟩

end Considerate.Session
