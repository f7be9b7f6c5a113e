import Considerate.Proofs.Session.Subject

namespace Considerate.Session

def Action.Forgets (u : Url) : Action → Prop
  | .invalidate v => v = none ∨ v = some u
  | _ => False

theorem not_forgets_advance (u : Url) (k : Nat) : ¬ (Action.advance k).Forgets u := id

/-- The task has asked the editor for the settings of the document, which have not been
invalidated since, and has no answer yet. -/
inductive Asked (u : Url) (id : Nat) : List Action → Prop
  | issued (as : List Action)
      (asks : .called id (.configuration u) ∈ ((after as).act (.advance id)).2) :
      Asked u id (as ++ [.advance id])
  | waits (as : List Action) (a : Action) (asked : Asked u id as) (kept : ¬ a.Forgets u)
      (silent : ∀ x, a ≠ .answer id x) (there : a ≠ .drop id) : Asked u id (as ++ [a])

/-- The task has got the answer to such a question and not gone on with it yet. -/
inductive Answered (u : Url) (id : Nat) (x : Answer) : List Action → Prop
  | heard (as : List Action) (asked : Asked u id as) : Answered u id x (as ++ [.answer id x])
  | waits (as : List Action) (a : Action) (answered : Answered u id x as) (kept : ¬ a.Forgets u)
      (still : a ≠ .advance id) (there : a ≠ .drop id) : Answered u id x (as ++ [a])

/-- The settings are those that came of a question to the editor that was put after the settings
of the document were last invalidated. -/
inductive Fetched (u : Url) : Settings → List Action → Prop
  | taken (as : List Action) (id : Nat) (x : Answer) (answered : Answered u id x as) :
      Fetched u ((after as).settingsFrom x.configuration) (as ++ [.advance id])
  | kept (as : List Action) (a : Action) (settings : Settings) (fetched : Fetched u settings as)
      (kept : ¬ a.Forgets u) : Fetched u settings (as ++ [a])

variable {s t : Session} {id : Nat} {st next : Stage}

/-- What a task does with the cells. -/
inductive Seeks (s : Session) (id : Nat) (st : Stage) (t : Session) (next : Stage) : Prop
  | nothing (same : t.cells = s.cells) (apart : next.cell? = none) (free : st.cell? = none)
  | forget (v : Url) (here : st = .fresh (.close v)) (forgotten : t.cells = s.cells.forget (some v))
      (apart : next.cell? = none)
  | want (v : Url) (reader : Reader) (wanted : t.cells = (s.cells.ofDocument v).1)
      (goal : next = .cell v (s.cells.ofDocument v).2 reader) (free : st.cell? = none)
  | queue (v : Url) (n : Nat) (reader : Reader) (here : st = .cell v n reader)
      (requested : t.cells = (s.requestCell n id).cells) (same : next = st)
      (empty : (s.cells.get n).value = none)
      (busy : ((s.cells.get n).turns.request id).isHeldBy id = false)
  | ask (v : Url) (n : Nat) (reader : Reader) (here : st = .cell v n reader)
      (requested : t.cells = (s.requestCell n id).cells)
      (asks : next = .calling (.configuration v) (.configured n reader))
      (empty : (s.cells.get n).value = none)
      (turn : ((s.cells.get n).turns.request id).isHeldBy id = true)
  | filled (v : Url) (n : Nat) (reader : Reader) (here : st = .cell v n reader)
      (settings : Settings) (value : (s.cells.get n).value = some settings)
      (same : t.cells = s.cells) (goal : next = handOver settings reader)
  | fill (n : Nat) (reader : Reader) (x : Answer) (here : st = .back (.configured n reader) x)
      (fills : t.cells = s.cells.fill n (s.settingsFrom x.configuration))
      (goal : next = handOver (s.settingsFrom x.configuration) reader)

theorem Begins.cell? {r : Request} {ticket : Nat} (h : Begins s r ticket t st) :
    st.cell? = none := by
  cases h <;> rfl

theorem Resumes.seeks {v : Session} {plan : Plan} (h : Resumes v plan t next)
    (hc : v.cells = s.cells) (free : st.cell? = none) : Seeks s id st t next := by
  cases h with
  | want p d found opened =>
    rw [hc]
    exact .want p.url (.pass p) rfl rfl free
  | replay p es owner r schedule handed t next begins =>
    exact .nothing (begins.cells.trans hc) begins.cell? free
  | _ => exact .nothing hc rfl free

theorem Moves.seeks (h : Moves s id st t next) : Seeks s id st t next := by
  cases h with
  | start r idle t next begins => exact .nothing begins.cells begins.cell? rfl
  | close v => exact .forget v rfl rfl rfl
  | settings v => exact .want v .caller rfl rfl rfl
  | keep v c plan turn store changed t next resumes => exact resumes.seeks rfl rfl
  | shown plan x t next resumes => exact resumes.seeks rfl rfl
  | told plan x t next resumes => exact resumes.seeks rfl rfl
  | configured n reader x => exact .fill n reader x rfl rfl rfl
  | filled v n reader settings value => exact .filled v n reader rfl settings value rfl rfl
  | ask v n reader empty turn => exact .ask v n reader rfl rfl rfl empty turn
  | queueForCell v n reader empty busy => exact .queue v n reader rfl rfl rfl empty busy
  | _ => exact .nothing rfl rfl rfl

theorem cell?_handOver (settings : Settings) (reader : Reader) :
    (handOver settings reader).cell? = none := by
  cases reader <;> rfl

/-- Only a task that closes the document takes its cell away. -/
theorem Seeks.keeps_cell {u : Url} (h : Seeks s id st t next) (hc : st ≠ .fresh (.close u)) (n : Nat)
    (hn : s.cells.current.get? u = some n) : t.cells.current.get? u = some n := by
  cases h with
  | nothing same apart | filled v m reader here settings value same goal => rw [same, hn]
  | forget v here forgotten apart =>
    rw [forgotten]
    refine (s.cells.forget_keeps ?_).trans hn
    rintro rfl
    exact hc here
  | want v reader wanted goal =>
    rw [wanted]
    exact s.cells.ofDocument_keeps v hn
  | queue v m reader here requested same | ask v m reader here requested asks =>
    rw [requested]
    exact hn
  | fill m reader x here fills goal =>
    rw [fills]
    exact hn

inductive Tends (s : Session) (cells : Cells) (a : Action) : Prop
  | nothing (same : cells = s.cells)
  | forget (v : Option Url) (forgotten : cells = s.cells.forget v)
  | want (v : Url) (wanted : cells = (s.cells.ofDocument v).1)
  | turn (n : Nat) (turns : Turns) (turned : cells = s.cells.set n { s.cells.get n with turns })
  | fill (id n : Nat) (reader : Reader) (x : Answer) (here : a = .advance id)
      (found : s.tasks.get? id = some (.back (.configured n reader) x))
      (fills : cells = s.cells.fill n (s.settingsFrom x.configuration))

theorem Seeks.tends (h : Seeks s id st t next) (found : s.tasks.get? id = some st) :
    Tends s t.cells (.advance id) := by
  cases h with
  | nothing same apart => exact .nothing same
  | forget v here forgotten apart => exact .forget _ forgotten
  | want v reader wanted goal => exact .want v wanted
  | queue v n reader here requested same => exact .turn n _ requested
  | ask v n reader here requested asks => exact .turn n _ requested
  | filled v n reader here settings value same goal => exact .nothing same
  | fill n reader x here fills goal => exact .fill id n reader x rfl (here ▸ found) fills

/-- A task that is dropped leaves the line for its cell. -/
theorem cells_letGo_eq (s : Session) (id : Nat) (st : Stage) : (s.letGo id st).cells =
    st.cell?.elim s.cells fun n =>
      s.cells.set n { s.cells.get n with turns := (s.cells.get n).turns.leave id } := by
  unfold letGo
  cases st.cell? <;> cases st.pass? <;> rfl

theorem cells_letGo (s : Session) (id : Nat) (st : Stage) :
    (s.letGo id st).cells = s.cells ∨
    ∃ n turns, (s.letGo id st).cells = s.cells.set n { s.cells.get n with turns } := by
  rw [cells_letGo_eq]
  cases st.cell? with
  | none => exact Or.inl rfl
  | some n => exact Or.inr ⟨n, _, rfl⟩

theorem Step.tends {a : Action} {es : List Effect} (h : Step s a t es) : Tends s t.cells a := by
  cases h with
  | known | rest | unheard | idle | gone | openDocument => exact .nothing rfl
  | call id job new => exact .nothing (cells_put ..)
  | advance id st found ready t next moves =>
    rw [cells_put]
    exact moves.seeks.tends found
  | answer id x c plan found => exact .nothing (cells_put ..)
  | linted id p settings found => exact .nothing (cells_put ..)
  | drop id st found =>
    rcases cells_letGo { s with tasks := s.tasks.erase id } id st with he | ⟨n, turns, he⟩
    · exact .nothing he
    · exact .turn n turns he
  | changeText v text version =>
    rcases changeText_cases s v text version with he | ⟨d, he⟩ <;> rw [he] <;> exact .nothing rfl
  | invalidate v => exact .forget v rfl
  | reload files root =>
    rw [reload_eq]
    exact .nothing rfl

/-- Each cell that a document has or a task is at is there, and no two documents have the same. -/
structure Placed (s : Session) : Prop where
  bounded : ∀ v n, s.cells.current.get? v = some n → n < s.cells.all.length
  apart : ∀ v w n, s.cells.current.get? v = some n → s.cells.current.get? w = some n → v = w
  known : ∀ k st n, s.tasks.get? k = some st → st.cell? = some n → n < s.cells.all.length

variable {cells : Cells} {a : Action} {es : List Effect}

theorem Tends.length (h : Tends s cells a) : s.cells.all.length ≤ cells.all.length := by
  cases h with
  | nothing same => simp [same]
  | forget v forgotten => cases v <;> simp [forgotten, Cells.forget]
  | want v wanted =>
    rw [wanted]
    exact s.cells.length_ofDocument v
  | turn n turns turned => simp [turned]
  | fill id n reader x here found fills => simp [fills, Cells.fill]

theorem Tends.current (h : Tends s cells a) :
    (∀ v n, cells.current.get? v = some n → s.cells.current.get? v = some n) ∨
    ∃ w, ∀ v n, cells.current.get? v = some n →
      s.cells.current.get? v = some n ∨ v = w ∧ n = s.cells.all.length ∧ n < cells.all.length := by
  cases h with
  | nothing same =>
    rw [same]
    exact Or.inl fun _ _ hn => hn
  | forget w forgotten =>
    rw [forgotten]
    exact Or.inl fun _ _ hn => (s.cells.current_of_forget hn).1
  | want w wanted =>
    right
    refine ⟨w, ?_⟩
    intro v n hn
    rcases s.cells.ofDocument_cases w with ⟨_, hd⟩ | ⟨_, _, hd⟩
    · rw [wanted, hd] at hn
      exact Or.inl hn
    · rw [wanted, hd] at hn
      by_cases hv : v = w
      · subst hv
        rw [Keyed.get?_set_self, Option.some.injEq] at hn
        subst hn
        exact Or.inr ⟨rfl, rfl, by simp [wanted, hd]⟩
      · exact Or.inl ((Keyed.get?_set_ne _ hv _).symm.trans hn)
  | turn n turns turned =>
    rw [turned]
    exact Or.inl fun _ _ hn => hn
  | fill id n reader x here found fills =>
    rw [fills]
    exact Or.inl fun _ _ hn => hn

/-- A cell that was there before belongs to a document that it belonged to before. -/
theorem Tends.current_of_lt (h : Tends s cells a) {v : Url} {n : Nat}
    (hv : cells.current.get? v = some n) (hn : n < s.cells.all.length) :
    s.cells.current.get? v = some n := by
  rcases h.current with hc | ⟨w, hc⟩
  · exact hc v n hv
  · rcases hc v n hv with hs | ⟨_, rfl, _⟩
    · exact hs
    · exact (Nat.lt_irrefl _ hn).elim

/-- A cell comes to its value when the answer to a question arrives. -/
theorem Tends.value (h : Tends s cells a) {n : Nat} {settings : Settings}
    (hv : (cells.get n).value = some settings) :
    (s.cells.get n).value = some settings ∨
    ∃ id reader x, a = .advance id ∧ s.tasks.get? id = some (.back (.configured n reader) x) ∧
      cells.current = s.cells.current ∧ settings = s.settingsFrom x.configuration := by
  cases h with
  | nothing same =>
    rw [same] at hv
    exact Or.inl hv
  | forget w forgotten =>
    rw [forgotten] at hv
    cases w <;> exact Or.inl hv
  | want w wanted =>
    rw [wanted, Cells.get_ofDocument] at hv
    exact Or.inl hv
  | turn m turns turned =>
    rw [turned] at hv
    rcases s.cells.get_set_cases n m { s.cells.get m with turns } with he | ⟨rfl, he⟩ <;>
      rw [he] at hv <;> exact Or.inl hv
  | fill id m reader x here found fills =>
    rw [fills, Cells.fill] at hv
    rcases s.cells.get_set_cases n m { value := some (s.settingsFrom x.configuration) } with
      he | ⟨rfl, he⟩ <;> rw [he] at hv
    · exact Or.inl hv
    · right
      exact ⟨id, reader, x, here, found, by rw [fills]; rfl, (Option.some.inj hv).symm⟩

theorem lt_of_value {c : Cells} {n : Nat} {settings : Settings}
    (h : (c.get n).value = some settings) : n < c.all.length := by
  by_contra hn
  simp [Cells.get, List.getElem?_eq_none (Nat.le_of_not_lt hn)] at h

theorem cell?_back (c : Call) (plan : Return) (x : Answer) :
    (Stage.back plan x).cell? = (Stage.calling c plan).cell? := by
  cases plan <;> rfl

theorem handOver_ne_of_cell (settings : Settings) (reader : Reader) {n : Nat}
    (h : st.cell? = some n) : handOver settings reader ≠ st := by
  rintro rfl
  rw [cell?_handOver] at h
  cases h

/-- A task that comes to want a cell wants that of a document, or it has wanted it before. -/
theorem Seeks.wants {v : Url} {n : Nat} {reader : Reader}
    (h : Seeks s id st t (.cell v n reader)) :
    t.cells.current.get? v = some n ∨ st = .cell v n reader := by
  cases h with
  | nothing same apart | forget w here forgotten apart => cases apart
  | want w r wanted goal =>
    cases goal
    left
    rw [wanted]
    exact s.cells.ofDocument_self v
  | queue w m r here requested same => exact Or.inr same.symm
  | ask w m r here requested asks => cases asks
  | filled w m r here settings value same goal =>
    exact (handOver_ne_of_cell settings r rfl goal.symm).elim
  | fill m r x here fills goal =>
    exact (handOver_ne_of_cell _ r rfl goal.symm).elim

/-- A task asks for the settings of the document for which it has wanted the cell. -/
theorem Seeks.asks {n : Nat} {c : Call} {reader : Reader}
    (h : Seeks s id st t (.calling c (.configured n reader))) :
    ∃ v r, st = .cell v n r ∧ c = .configuration v := by
  cases h with
  | nothing same apart | forget w here forgotten apart => cases apart
  | want w r wanted goal => cases goal
  | queue w m r here requested same =>
    rw [here] at same
    cases same
  | ask w m r here requested asks =>
    cases asks
    exact ⟨w, reader, here, rfl⟩
  | filled w m r here settings value same goal =>
    exact (handOver_ne_of_cell settings r rfl goal.symm).elim
  | fill m r x here fills goal =>
    exact (handOver_ne_of_cell _ r rfl goal.symm).elim

theorem Resumes.ne_back {plan : Plan} {r : Return} {x : Answer} (h : Resumes s plan t next) :
    next ≠ .back r x := by
  cases h with
  | replay p es owner r schedule handed t next begins => cases begins <;> simp [tell]
  | _ => simp [tell]

/-- No task comes to an answer by itself. -/
theorem Moves.ne_back {r : Return} {x : Answer} (h : Moves s id st t next) :
    next ≠ .back r x := by
  cases h with
  | start q idle t next begins => cases begins <;> simp [tell]
  | keep u c plan turn store changed t next resumes => exact resumes.ne_back
  | shown plan y t next resumes => exact resumes.ne_back
  | told plan y t next resumes => exact resumes.ne_back
  | configured n reader y => cases reader <;> simp [handOver]
  | filled u n reader settings value => cases reader <;> simp [handOver]
  | _ => simp [tell]

/-- The cell that a task comes to is that of a document, or the one that it was at. -/
theorem Seeks.cell? (h : Seeks s id st t next) {n : Nat} (hn : next.cell? = some n) :
    st.cell? = some n ∨ ∃ v, t.cells.current.get? v = some n := by
  cases h with
  | nothing same apart | forget v here forgotten apart =>
    rw [apart] at hn
    cases hn
  | want v reader wanted goal =>
    subst goal
    right
    refine ⟨v, ?_⟩
    rw [wanted, ← Option.some.inj hn]
    exact s.cells.ofDocument_self v
  | queue v m reader here requested same =>
    subst same
    exact Or.inl hn
  | ask v m reader here requested asks =>
    subst asks
    exact Or.inl (here ▸ hn)
  | filled v m reader here settings value same goal | fill m reader x here fills goal =>
    rw [goal, cell?_handOver] at hn
    cases hn

theorem placed_step (h : Placed s) (hs : Step s a t es) : Placed t := by
  have ht := hs.tends
  have hb : ∀ v n, t.cells.current.get? v = some n → n < t.cells.all.length := by
    intro v n hv
    have hlt : s.cells.current.get? v = some n → n < t.cells.all.length := by
      intro hn
      exact Nat.lt_of_lt_of_le (h.bounded v n hn) ht.length
    rcases ht.current with hc | ⟨w, hc⟩
    · exact hlt (hc v n hv)
    · rcases hc v n hv with hn | ⟨_, _, hn⟩
      · exact hlt hn
      · exact hn
  refine ⟨hb, ?_, ?_⟩
  · intro v w n hv hw
    by_cases hn : n < s.cells.all.length
    · exact h.apart v w n (ht.current_of_lt hv hn) (ht.current_of_lt hw hn)
    · have hold : ∀ v, s.cells.current.get? v ≠ some n := fun v hv => hn (h.bounded v n hv)
      rcases ht.current with hc | ⟨w', hc⟩
      · exact (hold v (hc v n hv)).elim
      · rcases hc v n hv with hv | ⟨rfl, _⟩
        · exact (hold v hv).elim
        · rcases hc w n hw with hw | ⟨rfl, _⟩
          · exact (hold w hw).elim
          · rfl
  · intro k st n hk hn
    have hold : ∀ old, s.tasks.get? k = some old → old.cell? = some n → n < t.cells.all.length :=
      fun old hk hn => Nat.lt_of_lt_of_le (h.known k old n hk hn) ht.length
    cases hs.arises hk with
    | stays a found => exact hold st found hn
    | called job fresh =>
      subst fresh
      cases hn
    | moved old t' found ready moves result sight =>
      rcases moves.seeks.cell? hn with ho | ⟨v, hv⟩
      · exact hold old found ho
      · rw [← cells_put t' k st, ← result] at hv
        exact hb v n hv
    | answered c plan x found back =>
      subst back
      exact hold _ found ((cell?_back c plan x).symm.trans hn)
    | linted p settings found ended =>
      subst ended
      cases hn

/-- The cells of every state that a session reaches are in place. -/
theorem placed_after (as : List Action) : Placed (after as) := by
  induction as using List.reverseRecOn with
  | nil =>
    constructor
    · intro v n hv
      cases hv
    · intro v w n hv
      cases hv
    · intro k st n hk
      cases hk
  | append_singleton as a ih =>
    rw [after_snoc]
    exact placed_step ih (step_act (after as) a)

/-- What is known about the cell that the document has, if it has one: its value has been fetched,
and the tasks at it want it for the document and have asked for it in vain so far. -/
structure Sourced (u : Url) (as : List Action) : Prop where
  value : ∀ n settings, (after as).cells.current.get? u = some n →
    ((after as).cells.get n).value = some settings → Fetched u settings as
  wants : ∀ n, (after as).cells.current.get? u = some n → ∀ k v reader,
    (after as).tasks.get? k = some (.cell v n reader) → v = u
  asks : ∀ n, (after as).cells.current.get? u = some n → ∀ k c reader,
    (after as).tasks.get? k = some (.calling c (.configured n reader)) → Asked u k as
  answers : ∀ n, (after as).cells.current.get? u = some n → ∀ k x reader,
    (after as).tasks.get? k = some (.back (.configured n reader) x) → Answered u k x as

/-- A document whose settings are invalidated has no cell. -/
theorem current_of_forgets {u : Url} {a : Action} (h : a.Forgets u) (s : Session) (n : Nat) :
    (s.act a).1.cells.current.get? u ≠ some n := by
  intro hn
  cases a with
  | invalidate v =>
    obtain ⟨_, hnone, hsome⟩ := s.cells.current_of_forget hn
    rcases h with rfl | rfl
    · exact hnone rfl
    · exact hsome rfl
  | _ => exact h

theorem sourced_snoc {u : Url} {as : List Action} (h : Sourced u as) (a : Action) :
    Sourced u (as ++ [a]) := by
  have hp := placed_after as
  have hp' := placed_after (as ++ [a])
  have hs := step_act (after as) a
  have ht := hs.tends
  have hf : ∀ n, (after (as ++ [a])).cells.current.get? u = some n → ¬ a.Forgets u := by
    intro n hn hf
    rw [after_snoc] at hn
    exact current_of_forgets hf _ n hn
  -- A cell that some task was at before belonged to the document before, if it does so now.
  have hold : ∀ n k st, (after (as ++ [a])).cells.current.get? u = some n →
      (after as).tasks.get? k = some st → st.cell? = some n →
      (after as).cells.current.get? u = some n := by
    intro n k st hn hk hc
    rw [after_snoc] at hn
    exact ht.current_of_lt hn (hp.known k st n hk hc)
  constructor
  · intro n settings hn hv
    have hkept := hf n hn
    rw [after_snoc] at hn hv
    rcases ht.value hv with hv | ⟨id, reader, x, rfl, found, hc, rfl⟩
    · exact .kept as a settings (h.value n settings (ht.current_of_lt hn (lt_of_value hv)) hv) hkept
    · rw [hc] at hn
      exact .taken as id x (h.answers n hn id x reader found)
  · intro n hn k v reader hk
    have hn' := hn
    rw [after_snoc] at hk hn'
    cases hs.arises hk with
    | stays a found => exact h.wants n (hold n k _ hn found rfl) k v reader found
    | called job fresh => cases fresh
    | answered c plan x found back => cases back
    | linted p settings found ended => cases ended
    | moved old t found ready moves result sight =>
      rcases moves.seeks.wants with hv | rfl
      · rw [after_snoc, result, cells_put] at hn
        have hb := hp'.apart u v n
        rw [after_snoc, result, cells_put] at hb
        exact (hb hn hv).symm
      · exact h.wants n (hold n k _ hn found rfl) k v reader found
  · intro n hn k c reader hk
    have hkept := hf n hn
    rw [after_snoc] at hk
    cases hs.arises hk with
    | stays a found stuck silent kept =>
      exact .waits as a (h.asks n (hold n k _ hn found rfl) k c reader found) hkept
        (fun x ha => silent x c _ ha rfl) kept
    | called job fresh => cases fresh
    | answered c plan x found back => cases back
    | linted p settings found ended => cases ended
    | moved old t found ready moves result sight =>
      obtain ⟨v, r, rfl, rfl⟩ := moves.seeks.asks
      cases h.wants n (hold n k _ hn found rfl) k v r found
      exact .issued as (sight _ (by simp [seen]))
  · intro n hn k x reader hk
    have hkept := hf n hn
    rw [after_snoc] at hk
    cases hs.arises hk with
    | stays a found stuck silent kept =>
      refine .waits as a (h.answers n (hold n k _ hn found rfl) k x reader found) hkept ?_ kept
      intro ha
      cases stuck ha
    | called job fresh => cases fresh
    | answered c plan y found back =>
      cases back
      exact .heard as (h.asks n (hold n k _ hn found rfl) k c reader found)
    | linted p settings found ended => cases ended
    | moved old t found ready moves result sight => exact (moves.ne_back rfl).elim

/-- In every state that a session reaches, the settings in the cell that a document has were
fetched after they were last invalidated. -/
theorem sourced_after (u : Url) (as : List Action) : Sourced u as := by
  induction as using List.reverseRecOn with
  | nil =>
    constructor
    · intro n settings hn
      cases hn
    · intro n hn
      cases hn
    · intro n hn
      cases hn
    · intro n hn
      cases hn
  | append_singleton as a ih => exact sourced_snoc ih a

end Considerate.Session
