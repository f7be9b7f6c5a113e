import Considerate.Proofs.Session.Subject

namespace Considerate.Session

def shownIn (u : Url) (es : List Effect) : List (List Diagnostic) :=
  es.filterMap (Effect.shown? u)

theorem published_after (u : Url) (as : List Action) (a : Action) :
    published u (as ++ [a]) = published u as ++ shownIn u ((after as).act a).2 :=
  published_snoc u as a

@[simp] theorem shownIn_woken (u : Url) (ids : List Nat) (es : List Effect) :
    shownIn u (ids.map .woken ++ es) = shownIn u es := by
  induction ids with
  | nil => rfl
  | cons id ids ih => exact ih

@[simp] theorem shownIn_publish (u : Url) (id : Nat) (ds : List Diagnostic) (plan : Return) :
    shownIn u (seen id (.calling (.publish u ds) plan)) = [ds] := by
  simp [shownIn, seen, Effect.shown?]

theorem shownIn_publish_ne {u v : Url} (h : v ≠ u) (id : Nat) (ds : List Diagnostic)
    (plan : Return) : shownIn u (seen id (.calling (.publish v ds) plan)) = [] := by
  simp [shownIn, seen, Effect.shown?, h]

def Silent (st : Stage) : Prop := ∀ u id, shownIn u (seen id st) = []

variable {s t : Session} {id : Nat} {st next : Stage} {u : Url}

theorem silent_handOver (settings : Settings) (reader : Reader) :
    Silent (handOver settings reader) := by
  intro u id
  cases reader <;> rfl

theorem Begins.silent {r : Request} {ticket : Nat} (h : Begins s r ticket t st) : Silent st := by
  cases h <;> exact fun _ _ => rfl

theorem Resumes.silent {plan : Plan} (h : Resumes s plan t st) : Silent st := by
  cases h with
  | replay p es owner r schedule handed t st begins => exact begins.silent
  | _ => exact fun _ _ => rfl

/-- What a task does in the store. A change that shows nothing ends its turn at once. -/
inductive Writes (s : Session) (st : Stage) (t : Session) (next : Stage) : Prop
  | nothing (same : t.store = s.store) (silent : Silent next)
  | publish (u : Url) (c : Change) (plan : Plan) (here : st = .store (.change u c plan))
      (ds : List Diagnostic) (changed : s.store.change u c = (t.store, some ds))
      (goal : next = .calling (.publish u ds) (.shown plan))
  | keep (u : Url) (c : Change) (plan : Plan) (here : st = .store (.change u c plan))
      (changed : s.store.change u c = (t.store, none)) (silent : Silent next)

theorem Moves.writes (h : Moves s id st t next) : Writes s st t next := by
  cases h with
  | start r idle t next begins => exact .nothing begins.store begins.silent
  | publish u c plan turn store ds changed => exact .publish u c plan rfl ds changed rfl
  | keep u c plan turn store changed t next resumes =>
    refine .keep u c plan rfl ?_ resumes.silent
    rw [changed, resumes.store]
  | shown plan x t next resumes => exact .nothing resumes.store resumes.silent
  | told plan x t next resumes => exact .nothing resumes.store resumes.silent
  | configured n reader x => exact .nothing rfl (silent_handOver _ reader)
  | filled v n reader settings value => exact .nothing rfl (silent_handOver settings reader)
  | _ => exact .nothing rfl fun _ _ => rfl

/-- A task shows nothing for a document that it is not about. -/
theorem Moves.shownIn (h : Moves s id st t next) (hu : st.subject? ≠ some u) :
    shownIn u (seen id next) = [] := by
  cases h.writes with
  | nothing same silent => exact silent u id
  | publish v c plan here ds changed goal =>
    subst here goal
    exact shownIn_publish_ne (fun hv => hu (congrArg some hv)) id ds _
  | keep v c plan here changed silent => exact silent u id

structure GoesOn (as : List Action) (k : Nat) (st : Stage) (t : Session) (next : Stage) :
    Prop where
  found : (after as).tasks.get? k = some st
  moves : Moves (after as) k st t next
  result : after (as ++ [.advance k]) = t.put k next
  shown : ∀ u, published u (as ++ [.advance k]) = published u as ++ shownIn u (seen k next)
  sight : ∀ e ∈ seen k next, e ∈ ((after as).act (.advance k)).2

variable {as : List Action} {k l : Nat}

theorem goesOn_of_ready (found : (after as).tasks.get? k = some st)
    (ready : (after as).canGoOn k st = true) :
    GoesOn as k st ((after as).advance k st).1 ((after as).advance k st).2 where
  found := found
  moves := moves_advance (after as) k st ready
  result := by rw [after_snoc, act_advance found ready]
  shown u := by rw [published_after, act_advance found ready, shownIn_woken]
  sight e he := by
    rw [act_advance found ready]
    exact List.mem_append_right _ he

namespace GoesOn

variable {st' : Stage} (h : GoesOn as k st t next)

include h

theorem documents : (after (as ++ [.advance k])).documents = t.documents := by
  rw [h.result, documents_put]

theorem cells : (after (as ++ [.advance k])).cells = t.cells := by
  rw [h.result, cells_put]

theorem schedule : (after (as ++ [.advance k])).schedule = t.schedule := by
  rw [h.result, schedule_put]

theorem store : (after (as ++ [.advance k])).store = t.store := by
  rw [h.result, store_put]

theorem other (hl : l ≠ k) :
    (after (as ++ [.advance k])).tasks.get? l = (after as).tasks.get? l := by
  rw [h.result, tasks_put_ne _ _ hl, h.moves.tasks]

theorem eq_next (there : (after (as ++ [.advance k])).tasks.get? k = some st') : st' = next := by
  rw [h.result] at there
  exact eq_of_tasks_put there

theorem self (hn : ∀ v, next ≠ .done v) :
    (after (as ++ [.advance k])).tasks.get? k = some next := by
  rw [h.result]
  rcases tasks_put_self t k next with ⟨hs, _⟩ | ⟨_, v, hd⟩
  · exact hs
  · exact (hn v hd).elim

theorem nothing_shown (same : t.store = (after as).store) (silent : Silent next) (u : Url) :
    (after (as ++ [.advance k])).store.get? u = (after as).store.get? u ∧
    published u (as ++ [.advance k]) = published u as := by
  rw [h.store, same, h.shown, silent u k, List.append_nil]
  exact ⟨rfl, rfl⟩

/-- A task that is not at the store leaves it alone and shows nothing. -/
theorem nothing_stored (apart : ∀ a, st ≠ .store a) (u : Url) :
    (after (as ++ [.advance k])).store.get? u = (after as).store.get? u ∧
    published u (as ++ [.advance k]) = published u as := by
  cases h.moves.writes with
  | nothing same silent => exact h.nothing_shown same silent u
  | publish v c plan here | keep v c plan here => exact (apart _ here).elim

end GoesOn

end Considerate.Session
