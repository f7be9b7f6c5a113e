import Considerate.Proofs.Session.Cells
import Considerate.Proofs.Session.Course

namespace Considerate

/-- The document that a task may change something of. One that only reads is about none. -/
def Job.subject? : Job → Option Url
  | .validate r => some r.url
  | .close u | .quickFix u _ _ | .change u _ => some u
  | .settings _ | .read _ _ => none

def Stage.subject? : Stage → Option Url
  | .fresh job => job.subject?
  | .store (.change u _ _) | .store (.fix u _ _) | .calling _ (.applied u _)
  | .back (.applied u _) _ => some u
  | st => st.pass?.map Pass.url

namespace Session

/-- What concerns the document `u` is the same in `t` as in `s`, but a cell for its settings may
have come up. -/
structure Keeps (u : Url) (s t : Session) : Prop where
  document : t.documents.get? u = s.documents.get? u
  slot : t.schedule.pending.get? u = s.schedule.pending.get? u
  queue : t.schedule.queuedFor u = s.schedule.queuedFor u
  findings : t.store.get? u = s.store.get? u
  cell : ∀ n, s.cells.current.get? u = some n → t.cells.current.get? u = some n

theorem Keeps.of_eq {u : Url} {s t : Session} (hd : t.documents = s.documents)
    (hs : t.schedule = s.schedule) (hf : t.store = s.store)
    (hc : t.cells.current = s.cells.current) : Keeps u s t := by
  constructor
  · rw [hd]
  · rw [hs]
  · rw [hs]
  · rw [hf]
  · rw [hc]
    exact fun _ h => h

theorem Keeps.trans {u : Url} {s t v : Session} (h : Keeps u s t) (h' : Keeps u t v) :
    Keeps u s v where
  document := h'.document.trans h.document
  slot := h'.slot.trans h.slot
  queue := h'.queue.trans h.queue
  findings := h'.findings.trans h.findings
  cell n hn := h'.cell n (h.cell n hn)

theorem Keeps.put {u : Url} {s t : Session} (h : Keeps u s t) (id : Nat) (st : Stage) :
    Keeps u s (t.put id st) := by
  constructor
  · rw [documents_put, h.document]
  · rw [schedule_put, h.slot]
  · rw [schedule_put, h.queue]
  · rw [store_put, h.findings]
  · rw [cells_put]
    exact h.cell

/-- Wanting settings makes at most a new cell. -/
theorem Keeps.want (u v : Url) (s : Session) :
    Keeps u s { s with cells := (s.cells.ofDocument v).1 } :=
  ⟨rfl, rfl, rfl, rfl, fun _ h => s.cells.ofDocument_keeps v h⟩

theorem Keeps.enqueue {u : Url} (s : Session) {r : Request} (h : r.url ≠ u) :
    Keeps u s { s with schedule := s.schedule.enqueue r } := by
  refine ⟨rfl, rfl, ?_, rfl, fun _ h => h⟩
  rw [Schedule.queuedFor_enqueue, if_neg (fun hr => h hr.1), List.append_nil]

theorem Keeps.forget {u v : Url} (s : Session) (h : u ≠ v) : Keeps u s (s.forget v) where
  document := Keyed.get?_erase_ne _ h
  slot := Schedule.pending_cancel_ne _ h
  queue := Schedule.queuedFor_cancel_ne _ h
  findings := rfl
  cell _ hn := (s.cells.forget_keeps h).trans hn

variable {s t : Session} {id : Nat} {st next : Stage} {u : Url}

/-- The beginning of a pass changes nothing yet. -/
theorem Begins.keeps {r : Request} {ticket : Nat} (h : Begins s r ticket t st) (u : Url) :
    Keeps u s t ∧ st.subject? = some r.url := by
  cases h <;> exact ⟨.of_eq rfl rfl rfl rfl, rfl⟩

theorem Resumes.keeps {plan : Plan} (h : Resumes s plan t st)
    (hp : ∀ p, plan.pass? = some p → p.url ≠ u) : Keeps u s t ∧ st.subject? ≠ some u := by
  have hne : ∀ p : Pass, plan.pass? = some p → (some p.url : Option Url) ≠ some u := by
    intro p hs he
    exact hp p hs (Option.some.inj he)
  cases h with
  | announce p | absent p | gone p | purge p | format p | record p | close p =>
    exact ⟨.of_eq rfl rfl rfl rfl, hne p rfl⟩
  | want p d found opened => exact ⟨.want u p.url s, hne p rfl⟩
  | stale p es old => exact ⟨.of_eq rfl rfl rfl rfl, by simp [Stage.subject?, Stage.pass?]⟩
  | free p es owner empty =>
    refine ⟨⟨rfl, ?_, rfl, rfl, fun _ h => h⟩, by simp [Stage.subject?, Stage.pass?]⟩
    exact Keyed.get?_erase_ne _ (hp p rfl).symm
  | replay p es owner next schedule handed t st begins =>
    obtain ⟨hk, hs⟩ := begins.keeps u
    have hu : u ≠ p.url := (hp p rfl).symm
    refine ⟨⟨hk.document, ?_, ?_, hk.findings, hk.cell⟩, ?_⟩
    · exact hk.slot.trans (handed.others u hu)
    · exact hk.queue.trans (handed.others_wait u hu)
    · rw [hs, handed.url]
      exact hne p rfl
  | finish v => exact ⟨.of_eq rfl rfl rfl rfl, by simp [Stage.subject?, Stage.pass?]⟩

theorem subject?_handOver (settings : Settings) (n : Nat) (reader : Reader) (x : Answer) :
    (handOver settings reader).subject? = (Stage.back (.configured n reader) x).subject? := by
  cases reader <;> rfl

theorem subject?_cell (v : Url) (n : Nat) (reader : Reader) (x : Answer) :
    (Stage.cell v n reader).subject? = (Stage.back (.configured n reader) x).subject? := by
  cases reader <;> rfl

theorem OnCourse.url {v : Url} {c : Change} {plan : Plan} {p : Pass}
    (h : OnCourse (.store (.change v c plan))) (hp : plan.pass? = some p) : p.url = v := by
  cases h p hp <;> rfl

theorem OnCourse.subject? {p : Pass} (h : OnCourse st) (hp : st.pass? = some p) :
    st.subject? = some p.url := by
  cases h p hp <;> rfl

/-- A task keeps what concerns a document that it is not about. -/
theorem Moves.keeps (h : Moves s id st t next) (hs : OnCourse st) (hu : st.subject? ≠ some u) :
    Keeps u s t ∧ next.subject? ≠ some u := by
  have hsame : t.documents = s.documents → t.schedule = s.schedule → t.store = s.store →
      t.cells.current = s.cells.current → next.subject? = st.subject? →
      Keeps u s t ∧ next.subject? ≠ some u := by
    intro hd hs hf hc hn
    exact ⟨.of_eq hd hs hf hc, hn ▸ hu⟩
  cases h with
  | wait r busy =>
    refine ⟨.enqueue s fun he => hu (congrArg some he), by simp [Stage.subject?, Stage.pass?]⟩
  | start r idle t next begins =>
    obtain ⟨hk, hn⟩ := begins.keeps u
    have hr : u ≠ r.url := fun he => hu (congrArg some he.symm)
    refine ⟨⟨hk.document, ?_, hk.queue, hk.findings, hk.cell⟩, hn ▸ hu⟩
    exact hk.slot.trans (Schedule.pending_claim_ne _ hr)
  | close v => exact ⟨.forget s fun he => hu (congrArg some he.symm), hu⟩
  | settings v => exact ⟨.want u v s, hu⟩
  | quickFix | read | change | queue | apply | applied | readNext | fail | report | late =>
    exact hsame rfl rfl rfl rfl rfl
  | publish v c plan turn store ds changed =>
    have hv : u ≠ v := fun he => hu (congrArg some he.symm)
    have hf : store.get? u = s.store.get? u := by
      rw [← Store.get?_change_ne s.store hv c, changed]
    refine ⟨⟨rfl, rfl, rfl, hf, fun _ h => h⟩, ?_⟩
    intro he
    obtain ⟨p, hp, hpu⟩ := Option.map_eq_some_iff.mp he
    exact hv (hpu.symm.trans (hs.url hp))
  | keep v c plan turn store changed t next resumes =>
    have hv : u ≠ v := fun he => hu (congrArg some he.symm)
    have hf : store.get? u = s.store.get? u := by
      rw [← Store.get?_change_ne s.store hv c, changed]
    obtain ⟨hk, hn⟩ := resumes.keeps fun p hp hpu => hv (hpu.symm.trans (hs.url hp))
    have hc : Keeps u s { s with store, turns := (s.turns.request id).pass } :=
      ⟨rfl, rfl, rfl, hf, fun _ h => h⟩
    exact ⟨hc.trans hk, hn⟩
  | unfound | readNothing | readLast | refused =>
    exact ⟨.of_eq rfl rfl rfl rfl, by simp [Stage.subject?, Stage.pass?]⟩
  | shown plan x t next resumes =>
    obtain ⟨hk, hn⟩ := resumes.keeps fun p hp hpu =>
      hu (Option.map_eq_some_iff.mpr ⟨p, hp, hpu⟩)
    have hp : Keeps u s { s with turns := s.turns.pass } := .of_eq rfl rfl rfl rfl
    exact ⟨hp.trans hk, hn⟩
  | told plan x t next resumes =>
    exact resumes.keeps fun p hp hpu => hu (Option.map_eq_some_iff.mpr ⟨p, hp, hpu⟩)
  | configured n reader x =>
    exact hsame rfl rfl rfl rfl (subject?_handOver ..)
  | filled v n reader settings value =>
    refine hsame rfl rfl rfl rfl ?_
    rw [subject?_handOver _ n _ {}, subject?_cell v n _ {}]
  | ask v n reader empty turn =>
    refine hsame rfl rfl rfl rfl ?_
    cases reader <;> rfl
  | queueForCell => exact hsame rfl rfl rfl rfl rfl

end Session

end Considerate
