import Considerate.Proofs.Schedule.Operations
import Considerate.Session.Act

namespace Considerate.Session

def passFor (s : Session) (r : Request) (ticket : Nat) : Pass :=
  { request := r, ticket, document := s.documents.get? r.url }

def numbered (s : Session) (p : Pass) : Pass := { p with number := s.lastNumber + 1 }

def requestCell (s : Session) (n id : Nat) : Session :=
  let cell := s.cells.get n
  { s with cells := s.cells.set n { cell with turns := cell.turns.request id } }

inductive Begins (s : Session) (r : Request) (ticket : Nat) : Session → Stage → Prop
  | clear (plain : r.options.format = false) (opened : (s.documents.get? r.url).isSome) :
      Begins s r ticket s (.store (.change r.url .clear (.announce (s.passFor r ticket))))
  | announce (silent : r.options.format = true ∨ s.documents.get? r.url = none) :
      Begins s r ticket { s with lastNumber := s.lastNumber + 1 }
        (tell (s.numbered (s.passFor r ticket)) (Phase.ofOptions r.options)
          (.configure (s.numbered (s.passFor r ticket))))

inductive Resumes (s : Session) : Plan → Session → Stage → Prop
  | announce (p : Pass) :
      Resumes s (.announce p) { s with lastNumber := s.lastNumber + 1 }
        (tell (s.numbered p) (Phase.ofOptions p.request.options) (.configure (s.numbered p)))
  | absent (p : Pass) (missing : p.document = none) :
      Resumes s (.configure p) s (tell p .error (.release p []))
  | gone (p : Pass) (d : Document) (found : p.document = some d)
      (closed : s.isOpen p.url = false) :
      Resumes s (.configure p) s (tell p .stop (.release p []))
  | want (p : Pass) (d : Document) (found : p.document = some d) (opened : s.isOpen p.url = true) :
      Resumes s (.configure p) { s with cells := (s.cells.ofDocument p.url).1 }
        (.cell p.url (s.cells.ofDocument p.url).2 (.pass p))
  | purge (p : Pass) (r : Report) (closed : s.isOpen p.url = false) :
      Resumes s (.conclude p r) s (.store (.change p.url .purge (.close p [])))
  | format (p : Pass) (r : Report) (opened : s.isOpen p.url = true)
      (silent : p.request.options.format = true) :
      Resumes s (.conclude p r) s (tell p .stop (.release p r.formatEdits))
  | record (p : Pass) (r : Report) (opened : s.isOpen p.url = true)
      (plain : p.request.options.format = false) :
      Resumes s (.conclude p r) s (.store (.change p.url (.record r.artifact) (.close p [])))
  | close (p : Pass) (es : List Edit) : Resumes s (.close p es) s (tell p .stop (.release p es))
  | stale (p : Pass) (es : List Edit) (old : s.schedule.owns p.url p.ticket = false) :
      Resumes s (.release p es) s (.done (.edits es))
  | free (p : Pass) (es : List Edit) (owner : s.schedule.owns p.url p.ticket = true)
      (empty : s.schedule.queuedFor p.url = []) :
      Resumes s (.release p es)
        { s with schedule := { s.schedule with pending := s.schedule.pending.erase p.url } }
        (.done (.edits es))
  | replay (p : Pass) (es : List Edit) (owner : s.schedule.owns p.url p.ticket = true)
      (next : Request) (schedule : Schedule) (handed : s.schedule.HandedOver p.url next schedule)
      (t : Session) (st : Stage)
      (begins : Begins { s with schedule } next (s.schedule.lastTicket + 1) t st) :
      Resumes s (.release p es) t st
  | finish (v : Value) : Resumes s (.finish v) s (.done v)

/-- How the task `id` goes on. -/
inductive Moves (s : Session) (id : Nat) : Stage → Session → Stage → Prop
  | wait (r : Request) (busy : s.schedule.isPending r.url = true) :
      Moves s id (.fresh (.validate r)) { s with schedule := s.schedule.enqueue r }
        (.done (.edits []))
  | start (r : Request) (idle : s.schedule.isPending r.url = false) (t : Session) (st : Stage)
      (begins : Begins { s with schedule := (s.schedule.claim r).1 } r (s.schedule.lastTicket + 1)
        t st) :
      Moves s id (.fresh (.validate r)) t st
  | close (u : Url) :
      Moves s id (.fresh (.close u)) (s.forget u) (.store (.change u .purge (.finish .nothing)))
  | settings (u : Url) :
      Moves s id (.fresh (.settings u)) { s with cells := (s.cells.ofDocument u).1 }
        (.cell u (s.cells.ofDocument u).2 .caller)
  | quickFix (u : Url) (code value : String) :
      Moves s id (.fresh (.quickFix u code value)) s (.store (.fix u code value))
  | read (u : Url) (parts : List Part) :
      Moves s id (.fresh (.read u parts)) s (.store (.read u parts {}))
  | change (u : Url) (c : Change) :
      Moves s id (.fresh (.change u c)) s (.store (.change u c (.finish .nothing)))
  | queue (a : Access) (busy : (s.turns.request id).isHeldBy id = false) :
      Moves s id (.store a) { s with turns := s.turns.request id } (.store a)
  | publish (u : Url) (c : Change) (next : Plan) (turn : (s.turns.request id).isHeldBy id = true)
      (store : Store) (ds : List Diagnostic) (changed : s.store.change u c = (store, some ds)) :
      Moves s id (.store (.change u c next)) { s with store, turns := s.turns.request id }
        (.calling (.publish u ds) (.shown next))
  | keep (u : Url) (c : Change) (next : Plan) (turn : (s.turns.request id).isHeldBy id = true)
      (store : Store) (changed : s.store.change u c = (store, none)) (t : Session) (st : Stage)
      (resumes : Resumes { s with store, turns := (s.turns.request id).pass } next t st) :
      Moves s id (.store (.change u c next)) t st
  | unfound (u : Url) (code value : String) (turn : (s.turns.request id).isHeldBy id = true)
      (missing : s.store.find u code = none) :
      Moves s id (.store (.fix u code value)) { s with turns := (s.turns.request id).pass }
        (.done (.applied false))
  | apply (u : Url) (code value : String) (turn : (s.turns.request id).isHeldBy id = true)
      (d : Diagnostic) (found : s.store.find u code = some d) :
      Moves s id (.store (.fix u code value)) { s with turns := (s.turns.request id).pass }
        (.calling (.applyEdit u ⟨d.range, value⟩) (.applied u d))
  | readNothing (u : Url) (v : View) (turn : (s.turns.request id).isHeldBy id = true) :
      Moves s id (.store (.read u [] v)) { s with turns := (s.turns.request id).pass }
        (.done (.view v))
  | readLast (u : Url) (part : Part) (v : View) (turn : (s.turns.request id).isHeldBy id = true) :
      Moves s id (.store (.read u [part] v)) { s with turns := (s.turns.request id).pass }
        (.done (.view (s.readPart u v part)))
  | readNext (u : Url) (part another : Part) (parts : List Part) (v : View)
      (turn : (s.turns.request id).isHeldBy id = true) :
      Moves s id (.store (.read u (part :: another :: parts) v))
        { s with turns := (s.turns.request id).pass }
        (.store (.read u (another :: parts) (s.readPart u v part)))
  | shown (next : Plan) (x : Answer) (t : Session) (st : Stage)
      (resumes : Resumes { s with turns := s.turns.pass } next t st) :
      Moves s id (.back (.shown next) x) t st
  | told (next : Plan) (x : Answer) (t : Session) (st : Stage) (resumes : Resumes s next t st) :
      Moves s id (.back (.told next) x) t st
  | configured (n : Nat) (reader : Reader) (x : Answer) :
      Moves s id (.back (.configured n reader) x)
        { s with cells := s.cells.fill n (s.settingsFrom x.configuration) }
        (handOver (s.settingsFrom x.configuration) reader)
  | applied (u : Url) (d : Diagnostic) (x : Answer) (made : x.applied = true) :
      Moves s id (.back (.applied u d) x) s
        (.store (.change u (.remove [d] false none) (.finish (.applied true))))
  | refused (u : Url) (d : Diagnostic) (x : Answer) (unmade : x.applied = false) :
      Moves s id (.back (.applied u d) x) s (.done (.applied false))
  | filled (u : Url) (n : Nat) (reader : Reader) (settings : Settings)
      (value : (s.cells.get n).value = some settings) :
      Moves s id (.cell u n reader) s (handOver settings reader)
  | ask (u : Url) (n : Nat) (reader : Reader) (empty : (s.cells.get n).value = none)
      (turn : ((s.cells.get n).turns.request id).isHeldBy id = true) :
      Moves s id (.cell u n reader)
        (s.requestCell n id) (.calling (.configuration u) (.configured n reader))
  | queueForCell (u : Url) (n : Nat) (reader : Reader) (empty : (s.cells.get n).value = none)
      (busy : ((s.cells.get n).turns.request id).isHeldBy id = false) :
      Moves s id (.cell u n reader)
        (s.requestCell n id) (.cell u n reader)
  | fail (p : Pass) (settings : Settings) (e : LintError)
      (failed : lint p.url p.document settings = .error e) :
      Moves s id (.linted p settings) s (tell p .error (.release p []))
  | report (p : Pass) (settings : Settings) (r : Report)
      (passed : lint p.url p.document settings = .ok r) (opened : s.isOpen p.url = true) :
      Moves s id (.linted p settings) s
        (.store (.change p.url (.replace r.diagnostics r.fixes) (.conclude p r)))
  | late (p : Pass) (settings : Settings) (r : Report)
      (passed : lint p.url p.document settings = .ok r) (closed : s.isOpen p.url = false) :
      Moves s id (.linted p settings) s (tell p .stop (.release p []))

/-- A pass that begins counts as announced, or nothing has changed yet. -/
theorem Begins.frame {s t : Session} {r : Request} {ticket : Nat} {st : Stage}
    (h : Begins s r ticket t st) : t = { s with lastNumber := t.lastNumber } := by
  cases h <;> rfl

/-- A plan that is resumed concerns no more than the numbers, the cells and the schedule. -/
theorem Resumes.frame {s t : Session} {plan : Plan} {st : Stage} (h : Resumes s plan t st) :
    t = { s with lastNumber := t.lastNumber, cells := t.cells, schedule := t.schedule } := by
  cases h with
  | replay p es owner next schedule handed t st begins =>
    rw [begins.frame]
  | _ => rfl

section
variable {s t : Session} {r : Request} {ticket : Nat} {plan : Plan} {st : Stage}

theorem Begins.tasks (h : Begins s r ticket t st) : t.tasks = s.tasks := by rw [h.frame]

theorem Begins.documents (h : Begins s r ticket t st) : t.documents = s.documents := by rw [h.frame]

theorem Begins.cells (h : Begins s r ticket t st) : t.cells = s.cells := by rw [h.frame]

theorem Begins.schedule (h : Begins s r ticket t st) : t.schedule = s.schedule := by rw [h.frame]

theorem Begins.store (h : Begins s r ticket t st) : t.store = s.store := by rw [h.frame]

theorem Resumes.tasks (h : Resumes s plan t st) : t.tasks = s.tasks := by rw [h.frame]

theorem Resumes.documents (h : Resumes s plan t st) : t.documents = s.documents := by rw [h.frame]

theorem Resumes.store (h : Resumes s plan t st) : t.store = s.store := by rw [h.frame]

end

theorem begins_begin (s : Session) (r : Request) (ticket : Nat) :
    Begins s r ticket (s.begin r ticket).1 (s.begin r ticket).2 := by
  by_cases h : (!r.options.format && (s.documents.get? r.url).isSome) = true
  · have he : s.begin r ticket =
        (s, .store (.change r.url .clear (.announce (s.passFor r ticket)))) := if_pos h
    simp only [Bool.and_eq_true, Bool.not_eq_true'] at h
    rw [he]
    exact .clear h.1 h.2
  · have he : s.begin r ticket = s.announce (s.passFor r ticket) := if_neg h
    rw [he]
    apply Begins.announce
    cases hf : r.options.format with
    | true => exact Or.inl rfl
    | false => exact Or.inr (by simpa [hf] using h)

theorem resumes_release (s : Session) (p : Pass) (es : List Edit) :
    Resumes s (.release p es) (s.release p es).1 (s.release p es).2 := by
  unfold Session.release
  rcases Schedule.release_cases s.schedule p.url p.ticket with
    ⟨ho, hr⟩ | ⟨ho, hq, hr⟩ | ⟨ho, next, t, ht, hr⟩
  · rw [hr]
    exact .stale p es ho
  · rw [hr]
    exact .free p es ho hq
  · rw [hr]
    exact .replay p es ho next t ht _ _ (begins_begin _ _ _)

theorem resumes_resume (s : Session) (next : Plan) :
    Resumes s next (s.resume next).1 (s.resume next).2 := by
  cases next with
  | announce p => exact .announce p
  | configure p =>
    simp only [resume, configure]
    cases hd : p.document with
    | none => exact .absent p hd
    | some d =>
      cases ho : s.isOpen p.url with
      | true => exact .want p d hd ho
      | false => exact .gone p d hd ho
  | conclude p r =>
    simp only [resume, conclude]
    cases ho : s.isOpen p.url with
    | false => exact .purge p r ho
    | true =>
      cases hf : p.request.options.format with
      | true => exact .format p r ho hf
      | false => exact .record p r ho hf
  | close p es => exact .close p es
  | release p es => exact resumes_release s p es
  | finish v => exact .finish v

theorem moves_start (s : Session) (id : Nat) (job : Job) :
    Moves s id (.fresh job) (s.start job).1 (s.start job).2 := by
  cases job with
  | validate r =>
    cases hp : s.schedule.isPending r.url with
    | true =>
      simp only [start, Schedule.submit, hp, if_true]
      exact .wait r hp
    | false =>
      simp only [start, Schedule.submit, hp]
      exact .start r hp _ _ (begins_begin _ _ _)
  | close u => exact .close u
  | settings u => exact .settings u
  | quickFix u code value => exact .quickFix u code value
  | read u parts => exact .read u parts
  | change u c => exact .change u c

theorem moves_access (s : Session) (id : Nat) (a : Access)
    (turn : (s.turns.request id).isHeldBy id = true) :
    Moves s id (.store a) ({ s with turns := s.turns.request id }.access a).1
      ({ s with turns := s.turns.request id }.access a).2 := by
  cases a with
  | change u c next =>
    rcases hc : s.store.change u c with ⟨store, _ | ds⟩
    · simp only [access, hc]
      exact .keep u c next turn store hc _ _ (resumes_resume _ next)
    · simp only [access, hc]
      exact .publish u c next turn store ds hc
  | fix u code value =>
    cases hf : s.store.find u code with
    | none =>
      simp only [access, hf]
      exact .unfound u code value turn hf
    | some d =>
      simp only [access, hf]
      exact .apply u code value turn d hf
  | read u parts v =>
    match parts with
    | [] => exact .readNothing u v turn
    | [part] => exact .readLast u part v turn
    | part :: another :: parts => exact .readNext u part another parts v turn

theorem readCell_of_empty {s : Session} {n : Nat} (h : (s.cells.get n).value = none) (id : Nat)
    (u : Url) (reader : Reader) :
    s.readCell id u n reader =
      (s.requestCell n id,
        if ((s.cells.get n).turns.request id).isHeldBy id
        then .calling (.configuration u) (.configured n reader)
        else .cell u n reader) := by
  simp only [readCell, requestCell, h]
  split <;> rfl

theorem moves_advance (s : Session) (id : Nat) (st : Stage) (h : s.canGoOn id st = true) :
    Moves s id st (s.advance id st).1 (s.advance id st).2 := by
  cases st with
  | fresh job => exact moves_start s id job
  | store a =>
    simp only [advance, enterStore]
    cases ht : (s.turns.request id).isHeldBy id with
    | true => exact moves_access s id a ht
    | false => exact .queue a ht
  | calling c next | linting p settings | done v => cases h
  | back next x =>
    cases next with
    | shown next => exact .shown next x _ _ (resumes_resume _ next)
    | told next => exact .told next x _ _ (resumes_resume _ next)
    | configured n reader => exact .configured n reader x
    | applied u d =>
      simp only [advance, goBack]
      cases hx : x.applied with
      | true => exact .applied u d x hx
      | false => exact .refused u d x hx
  | cell u n reader =>
    cases hv : (s.cells.get n).value with
    | some settings =>
      simp only [advance, readCell, hv]
      exact .filled u n reader settings hv
    | none =>
      rw [advance, readCell_of_empty hv]
      cases ht : ((s.cells.get n).turns.request id).isHeldBy id with
      | true => exact .ask u n reader hv ht
      | false => exact .queueForCell u n reader hv ht
  | linted p settings =>
    simp only [advance, settle]
    cases hl : lint p.url p.document settings with
    | error e => exact .fail p settings e hl
    | ok r =>
      cases ho : s.isOpen p.url with
      | true => exact .report p settings r hl ho
      | false => exact .late p settings r hl ho

end Considerate.Session
