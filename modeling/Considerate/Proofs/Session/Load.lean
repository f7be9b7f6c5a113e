import Considerate.Proofs.Session.Ahead

namespace Considerate

/-- What one task does to a line in which others are: they come no further back in it, and who is
called has waited. -/
structure Turns.Eases (t t' : Turns) (id : Nat) : Prop where
  others : ∀ k ≠ id, t'.slack k ≤ t.slack k
  called : ∀ k ≠ id, k ∈ Turns.newHolder t t' → t'.slack k + 1 ≤ t.slack k ∧ k ∈ t.waiting

namespace Turns

variable {t : Turns} {id k : Nat}

theorem mem_newHolder {t t' : Turns} (h : k ∈ newHolder t t') :
    t'.holder = some k ∧ t.holder ≠ some k := by
  unfold newHolder at h
  split at h
  · cases h
  · rename_i changed
    rw [Option.mem_toList] at h
    exact ⟨h, fun he => changed (h.trans he.symm)⟩

@[simp] theorem newHolder_self (t : Turns) : newHolder t t = [] := by simp [newHolder]

theorem nodup_newHolder (t t' : Turns) : (newHolder t t').Nodup := by
  unfold newHolder
  split
  · exact List.nodup_nil
  · cases t'.holder <;> simp

/-- Who gets a turn by asking for it has asked himself. -/
theorem newHolder_request (h : k ∈ newHolder t (t.request id)) : k = id := by
  obtain ⟨now, before⟩ := mem_newHolder h
  unfold request at now
  split at now
  · exact (Option.some.inj now).symm
  · split at now <;> exact (before now).elim

theorem Eases.refl (t : Turns) (id : Nat) : t.Eases t id where
  others _ _ := Nat.le_refl _
  called k _ h := by simp at h

theorem Eases.request (t : Turns) (id : Nat) : t.Eases (t.request id) id where
  others _ hk := Nat.le_of_eq (slack_request hk)
  called _ hk h := (hk (newHolder_request h)).elim

theorem Eases.pass (held : t.holder = some id) : t.Eases t.pass id where
  others _ hk := slack_pass held hk
  called _ hk h := slack_pass_lt held hk (mem_newHolder h).1

/-- A task gets its turn and ends it at once. -/
theorem Eases.request_pass (turn : (t.request id).isHeldBy id = true) :
    t.Eases (t.request id).pass id where
  others k hk := by
    rw [← slack_request (t := t) hk]
    exact slack_pass (isHeldBy_iff.mp turn) hk
  called k hk h := by
    rw [← slack_request (t := t) hk, ← waiting_of_turn turn]
    exact slack_pass_lt (isHeldBy_iff.mp turn) hk (mem_newHolder h).1

end Turns

namespace Cell

/-- The tasks that can go on since a cell has been another one. -/
def woken (a b : Cell) : List Nat :=
  if a.value.isNone && b.value.isSome then a.turns.waiting else Turns.newHolder a.turns b.turns

@[simp] theorem woken_self (a : Cell) : a.woken a = [] := by
  cases h : a.value <;> simp [woken, h]

theorem woken_turns (a : Cell) (turns : Turns) :
    a.woken { a with turns } = Turns.newHolder a.turns turns := by
  cases h : a.value <;> simp [woken, h]

end Cell

namespace Cells

variable (cs : List Cell)

theorem woken_append (ds : List Cell) :
    (cs.zip (cs ++ ds)).flatMap (fun c => c.1.woken c.2) = [] := by
  induction cs with
  | nil => rfl
  | cons c cs ih => simp [ih]

theorem woken_set (n : Nat) (cell : Cell) :
    (cs.zip (cs.set n cell)).flatMap (fun c => c.1.woken c.2) =
      if n < cs.length then (cs[n]?.getD {}).woken cell else [] := by
  induction cs generalizing n with
  | nil => rfl
  | cons c cs ih =>
    cases n with
    | zero =>
      have := woken_append cs []
      rw [List.append_nil] at this
      simp [this]
    | succ n => simp [ih]

end Cells

/-- What a task of the server has ahead of it at the most: a pass, and its request before. -/
def Job.worth : Nat := 21

/-- What is gained when a task comes to its end that counts for more by `n`. -/
def Stage.gain (n : Nat) : Stage → Nat
  | .done _ => n
  | _ => 0

namespace Session

variable {s t : Session} {id k : Nat} {st next : Stage}

theorem wokenSince_eq (s t : Session) :
    wokenSince s t = Turns.newHolder s.turns t.turns ++
      (s.cells.all.zip t.cells.all).flatMap fun c => c.1.woken c.2 :=
  rfl

theorem Moves.eases (h : Moves s id st t next) (inTurn : InTurn s)
    (found : s.tasks.get? id = some st) : s.turns.Eases t.turns id := by
  cases h.queues with
  | apart same =>
    rw [same]
    exact .refl ..
  | waits there busy requested | shows u c plan here turn requested =>
    rw [requested]
    exact .request ..
  | leaves there turn passed =>
    rw [passed]
    exact .request_pass turn
  | returns showing passed =>
    rw [passed]
    exact .pass (inTurn.showing id st found showing)

theorem Moves.slack_cell (h : Moves s id st t next) (hk : k ≠ id) (n : Nat) :
    (t.cells.get n).slack k ≤ (s.cells.get n).slack k := by
  cases h.seeks with
  | nothing he | filled _ _ _ _ _ _ he => exact Nat.le_of_eq (by rw [he])
  | forget v here forgotten => exact Nat.le_of_eq (by rw [forgotten]; rfl)
  | want v reader wanted => exact Nat.le_of_eq (by rw [wanted, Cells.get_ofDocument])
  | queue v m reader here requested | ask v m reader here requested =>
    rw [requested, requestCell]
    rcases s.cells.get_set_cases n m
      { s.cells.get m with turns := (s.cells.get m).turns.request id } with he | ⟨rfl, he⟩
    · exact Nat.le_of_eq (congrArg (Cell.slack · k) he)
    · rw [he]
      unfold Cell.slack
      split
      · exact Nat.le_refl _
      · exact Nat.le_of_eq (Turns.slack_request hk)
  | fill m reader x here fills =>
    rw [fills, Cells.fill]
    rcases s.cells.get_set_cases n m { value := some (s.settingsFrom x.configuration) } with
      he | ⟨rfl, he⟩
    · exact Nat.le_of_eq (congrArg (Cell.slack · k) he)
    · rw [he]
      exact Nat.zero_le _

theorem Moves.others (h : Moves s id st t next) (inTurn : InTurn s)
    (found : s.tasks.get? id = some st) (hk : k ≠ id) (st' : Stage) :
    t.ahead k st' ≤ s.ahead k st' := by
  cases st' with
  | store a => exact Nat.add_le_add_left ((h.eases inTurn found).others k hk) _
  | cell u n reader => exact Nat.add_le_add_left (h.slack_cell hk n) _
  | _ => exact Nat.le_refl _

/-- Nobody else is woken at the cells, or all who wait at one that is filled. -/
theorem Moves.wakes (h : Moves s id st t next) :
    ((s.cells.all.zip t.cells.all).flatMap fun c => c.1.woken c.2).filter (· ≠ id) = [] ∨
    ∃ n, ((s.cells.all.zip t.cells.all).flatMap fun c => c.1.woken c.2) =
        (s.cells.get n).turns.waiting ∧
      (s.cells.get n).value = none ∧ (t.cells.get n).value.isSome = true := by
  have kept : t.cells.all = s.cells.all → ((s.cells.all.zip t.cells.all).flatMap fun c =>
      c.1.woken c.2).filter (· ≠ id) = [] := by
    intro he
    have := Cells.woken_append s.cells.all []
    rw [List.append_nil] at this
    rw [he, this]
    rfl
  cases h.seeks with
  | nothing he | filled _ _ _ _ _ _ he => exact Or.inl (kept (by rw [he]))
  | forget v here forgotten => exact Or.inl (kept (by rw [forgotten]; rfl))
  | want v reader wanted =>
    rcases s.cells.ofDocument_cases v with ⟨_, hd⟩ | ⟨_, _, hd⟩
    · exact Or.inl (kept (by rw [wanted, hd]))
    · refine Or.inl ?_
      rw [wanted, hd, Cells.woken_append]
      rfl
  | queue v m reader here requested | ask v m reader here requested =>
    refine Or.inl (List.filter_eq_nil_iff.mpr fun k hk => ?_)
    rw [requested] at hk
    simp only [requestCell, Cells.set, Cells.woken_set] at hk
    split at hk
    · rw [show s.cells.all[m]?.getD {} = s.cells.get m from rfl, Cell.woken_turns] at hk
      simpa using Turns.newHolder_request hk
    · cases hk
  | fill m reader x here fills =>
    rw [fills]
    simp only [Cells.fill, Cells.set, Cells.woken_set]
    split
    · rename_i there
      cases hv : (s.cells.get m).value with
      | some settings =>
        refine Or.inl ?_
        rw [show s.cells.all[m]?.getD {} = s.cells.get m from rfl]
        cases hh : (s.cells.get m).turns.holder <;> simp [Cell.woken, hv, Turns.newHolder, hh]
      | none =>
        refine Or.inr ⟨m, ?_, hv, ?_⟩
        · rw [show s.cells.all[m]?.getD {} = s.cells.get m from rfl]
          simp [Cell.woken, hv]
        · simp [Cells.get, there]
    · exact Or.inl rfl

/-- The tasks that are woken when one goes on are there, each of them once, and have less ahead. -/
theorem Moves.woken (h : Moves s id st t next) (inTurn : InTurn s) (awaited : Awaited s)
    (found : s.tasks.get? id = some st) :
    ((wokenSince s t).filter (· ≠ id)).Nodup ∧ ∀ k ∈ (wokenSince s t).filter (· ≠ id),
      ∃ st', s.tasks.get? k = some st' ∧ t.ahead k st' + 1 ≤ s.ahead k st' := by
  have atStore : ∀ k ∈ (Turns.newHolder s.turns t.turns).filter (· ≠ id), ∃ a,
      s.tasks.get? k = some (.store a) ∧ t.ahead k (.store a) + 1 ≤ s.ahead k (.store a) := by
    intro k hk
    rw [List.mem_filter, decide_eq_true_eq] at hk
    obtain ⟨less, waits⟩ := (h.eases inTurn found).called k hk.2 hk.1
    obtain ⟨st', there, goal⟩ := inTurn.known k (Turns.mem_line.mpr (Or.inr waits))
    have here : st'.isAtStore = true := by
      refine goal.resolve_right fun showing => ?_
      exact inTurn.orderly.not_waiting (inTurn.showing k st' there showing) waits
    cases st' with
    | store a =>
      refine ⟨a, there, ?_⟩
      simp only [ahead]
      omega
    | _ => cases here
  have atCell : ∀ k ∈ ((s.cells.all.zip t.cells.all).flatMap fun c => c.1.woken c.2).filter (· ≠ id),
      ∃ u n reader, s.tasks.get? k = some (.cell u n reader) ∧
        t.ahead k (.cell u n reader) + 1 ≤ s.ahead k (.cell u n reader) := by
    intro k hk
    rcases h.wakes with none_ | ⟨n, woken, empty, full⟩
    · rw [none_] at hk
      cases hk
    · rw [woken, List.mem_filter] at hk
      obtain ⟨u, reader, there⟩ := awaited.known n k hk.1
      refine ⟨u, n, reader, there, ?_⟩
      have hn : (s.cells.get n).turns.holder ≠ some k :=
        fun hh => (awaited.orderly n).not_waiting hh hk.1
      simp [ahead, Cell.slack, empty, full, Turns.slack, hn, hk.1]
  rw [wokenSince_eq, List.filter_append]
  refine ⟨List.nodup_append.mpr ⟨(Turns.nodup_newHolder ..).filter _, ?_, ?_⟩, ?_⟩
  · rcases h.wakes with none_ | ⟨n, woken, -⟩
    · rw [none_]
      exact List.nodup_nil
    · rw [woken]
      exact (List.nodup_append.mp (awaited.orderly n).once).2.1.filter _
  · rintro k hk l hl rfl
    obtain ⟨a, there, -⟩ := atStore k hk
    obtain ⟨u, n, reader, here, -⟩ := atCell k hl
    rw [there] at here
    cases here
  · intro k hk
    rcases List.mem_append.mp hk with hk | hk
    · obtain ⟨a, there, less⟩ := atStore k hk
      exact ⟨_, there, less⟩
    · obtain ⟨u, n, reader, there, less⟩ := atCell k hk
      exact ⟨_, there, less⟩

/-- A task that can go on and has to wait for its turn in the store has asked for it by that. -/
theorem slack_store (ready : s.canGoOn id (.store a) = true)
    (busy : (s.turns.request id).isHeldBy id = false) :
    (s.turns.request id).slack id + 1 ≤ s.turns.slack id := by
  have waits : id ∉ s.turns.waiting := by simpa [canGoOn] using ready
  have held : s.turns.holder ≠ some id := by
    intro hh
    rw [Turns.isHeldBy_request.mpr (Or.inr hh)] at busy
    cases busy
  rw [show s.turns.slack id = 2 by rw [Turns.slack, if_neg held, if_neg waits]]
  exact Nat.succ_le_succ (Turns.slack_of_busy busy)

theorem slack_requestCell {u : Url} {n : Nat} {reader : Reader}
    (ready : s.canGoOn id (.cell u n reader) = true) (empty : (s.cells.get n).value = none)
    (busy : ((s.cells.get n).turns.request id).isHeldBy id = false) :
    ((s.requestCell n id).cells.get n).slack id + 1 ≤ (s.cells.get n).slack id := by
  have waits : id ∉ (s.cells.get n).turns.waiting := by simpa [canGoOn] using ready
  have held : (s.cells.get n).turns.holder ≠ some id := by
    intro hh
    rw [Turns.isHeldBy_request.mpr (Or.inr hh)] at busy
    cases busy
  have there : n < s.cells.all.length := by
    by_contra hn
    have := (Turns.holder_of_busy busy).2
    simp [Cells.get, List.getElem?_eq_none (Nat.le_of_not_lt hn)] at this
  have before : (s.cells.get n).slack id = 2 := by
    simp [Cell.slack, empty, Turns.slack, held, waits]
  have after : ((s.requestCell n id).cells.get n).slack id =
      ((s.cells.get n).turns.request id).slack id := by
    simp only [requestCell]
    rw [Cells.get_set_self _ there]
    simp [Cell.slack, empty]
  rw [before, after]
  exact Nat.succ_le_succ (Turns.slack_of_busy busy)

/-- There is less ahead of the task that goes on, and of the requests that wait. -/
theorem Moves.self (h : Moves s id st t next) (ready : s.canGoOn id st = true) :
    t.ahead id next + Request.worth * t.schedule.queued.length + 1 ≤
      s.ahead id st + Request.worth * s.schedule.queued.length := by
  cases h.nears with
  | less less =>
    have := t.ahead_le_most id next
    have := s.ahead_le id st
    omega
  | queue a here there busy asked =>
    subst here there asked
    have := slack_store ready busy
    simp only [ahead]
    omega
  | queueForCell u n reader here there empty busy asked =>
    subst here there asked
    have := slack_requestCell ready empty busy
    have : (s.requestCell n id).schedule = s.schedule := rfl
    simp only [ahead, this]
    omega

/-- What is ahead of all tasks, some of which count for more, and of the requests that wait. -/
def load (s : Session) (x : Nat → Nat) : Nat :=
  s.tasks.sum (fun k st => s.ahead k st + x k) + Request.worth * s.schedule.queued.length

theorem ahead_put (s : Session) (id : Nat) (st : Stage) : (s.put id st).ahead = s.ahead := by
  funext k st'
  cases st' <;> simp only [ahead, turns_put, cells_put]

theorem sum_put (distinct : s.tasks.Distinct) (id : Nat) (st : Stage) (x : Nat → Nat)
    (f : Nat → Stage → Nat) (ended : ∀ v, st = .done v → f id st = x id) :
    (s.put id st).tasks.sum f + st.gain (x id) = (s.tasks.erase id).sum f + f id st := by
  cases st with
  | done v =>
    rw [ended v rfl]
    rfl
  | _ => exact Keyed.sum_set distinct

theorem Moves.load (h : Moves s id st t next) (distinct : s.tasks.Distinct) (inTurn : InTurn s)
    (awaited : Awaited s) (found : s.tasks.get? id = some st) (ready : s.canGoOn id st = true)
    (x : Nat → Nat) :
    (t.put id next).load x + ((wokenSince s t).filter (· ≠ id)).length + next.gain (x id) + 1 ≤
      s.load x := by
  have same := h.tasks
  obtain ⟨once, woken⟩ := h.woken inTurn awaited found
  have sums : (s.tasks.erase id).sum (fun k st => t.ahead k st + x k) +
      ((wokenSince s t).filter (· ≠ id)).length ≤
        (s.tasks.erase id).sum (fun k st => s.ahead k st + x k) := by
    refine Keyed.sum_add_length_le (distinct.erase id) once (fun k hk => ?_) fun k st' there => ?_
    · obtain ⟨st', there, less⟩ := woken k hk
      have hne : k ≠ id := by simpa using (List.mem_filter.mp hk).2
      exact ⟨st', by rw [Keyed.get?_erase_ne _ hne, there], by omega⟩
    · have hne : k ≠ id := by
        rintro rfl
        rw [Keyed.get?_erase_self] at there
        cases there
      exact Nat.add_le_add_right (h.others inTurn found hne st') _
  have before := Keyed.sum_erase_add (f := fun k st => s.ahead k st + x k) distinct found
  have after : (t.put id next).tasks.sum (fun k st => t.ahead k st + x k) + next.gain (x id) =
      (s.tasks.erase id).sum (fun k st => t.ahead k st + x k) + (t.ahead id next + x id) := by
    rw [← same]
    refine sum_put (same ▸ distinct) id next x _ ?_
    rintro v rfl
    exact Nat.zero_add _
  have self := h.self ready
  have queued : (t.put id next).schedule = t.schedule := schedule_put ..
  simp only [Session.load, ahead_put, queued]
  omega

/-- A task is put at another stage, and nothing else happens. -/
theorem load_put (distinct : s.tasks.Distinct) (found : s.tasks.get? id = some st) (next : Stage)
    (x : Nat → Nat) :
    (s.put id next).load x + next.gain (x id) + s.ahead id st = s.load x + s.ahead id next := by
  have before := Keyed.sum_erase_add (f := fun k st => s.ahead k st + x k) distinct found
  have after : (s.put id next).tasks.sum (fun k st => s.ahead k st + x k) + next.gain (x id) =
      (s.tasks.erase id).sum (fun k st => s.ahead k st + x k) + (s.ahead id next + x id) := by
    refine sum_put distinct id next x _ ?_
    rintro v rfl
    exact Nat.zero_add _
  have queued : (s.put id next).schedule = s.schedule := schedule_put ..
  simp only [Session.load, ahead_put, queued]
  omega

theorem load_call (distinct : s.tasks.Distinct) (new : s.tasks.get? id = none) (job : Job)
    (x : Nat → Nat) : (s.put id (.fresh job)).load x = s.load x + job.ahead + x id := by
  have sum : (s.put id (.fresh job)).tasks.sum (fun k st => s.ahead k st + x k) =
      s.tasks.sum (fun k st => s.ahead k st + x k) + (job.ahead + x id) := by
    refine (Keyed.sum_set distinct).trans ?_
    rw [Keyed.erase_of_absent new]
    rfl
  rw [load, ahead_put, sum, schedule_put, load]
  omega

theorem load_mono (distinct : s.tasks.Distinct) {x y : Nat → Nat}
    (less : ∀ k st, s.tasks.get? k = some st → x k ≤ y k) : s.load x ≤ s.load y := by
  have none_ : ∀ k ∈ ([] : List Nat), ∃ st, s.tasks.get? k = some st ∧
      s.ahead k st + x k + 1 ≤ s.ahead k st + y k := by simp
  have := Keyed.sum_add_length_le distinct List.nodup_nil none_
    fun k st found => Nat.add_le_add_left (less k st found) _
  exact Nat.add_le_add_right this _

/-- No task is there twice or has much ahead of it, and all who wait do so where they should. -/
structure Tidy (s : Session) : Prop where
  distinct : s.tasks.Distinct
  inTurn : InTurn s
  awaited : Awaited s
  light : ∀ k st, s.tasks.get? k = some st → st.most ≤ Job.worth

theorem Tidy.empty : Tidy {} where
  distinct := .empty
  inTurn := inTurn_after []
  awaited := .empty
  light k st there := by cases there

theorem distinct_put (h : s.tasks.Distinct) (id : Nat) (st : Stage) :
    (s.put id st).tasks.Distinct := by
  cases st with
  | done v => exact h.erase id
  | _ => exact h.set id _

theorem Tidy.step {a : Action} {es : List Effect} (h : Tidy s) (hs : Step s a t es)
    (light : ∀ id job, a = .call id job → job.ahead ≤ Job.worth) : Tidy t where
  distinct := by
    cases hs with
    | known | rest | unheard | idle | gone | openDocument | invalidate => exact h.distinct
    | call | answer | linted => exact distinct_put h.distinct _ _
    | advance id st found ready t next moves => exact distinct_put (moves.tasks ▸ h.distinct) _ _
    | drop id st found =>
      rw [tasks_letGo]
      exact h.distinct.erase id
    | changeText u text version =>
      rcases changeText_cases s u text version with he | ⟨d, he⟩ <;> rw [he] <;> exact h.distinct
    | reload files root =>
      rw [reload_eq]
      exact h.distinct
  inTurn := h.inTurn.step hs
  awaited := h.awaited.step hs
  light k st there := by
    cases hs.arises there with
    | stays a found => exact h.light k st found
    | called job fresh =>
      subst fresh
      exact light k job rfl
    | moved old t found ready moves result =>
      have := moves.most
      have := h.light k old found
      simp only [Request.worth, Job.worth] at *
      omega
    | answered c next x found back =>
      subst back
      exact h.light k (.calling c next) found
    | linted p settings found ended =>
      subst ended
      exact Nat.le_of_succ_le (h.light k (.linting p settings) found)

end Session

end Considerate
