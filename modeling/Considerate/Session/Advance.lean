import Considerate.Session.Basic

namespace Considerate

namespace Session

def tell (p : Pass) (phase : Phase) (next : Plan) : Stage :=
  .calling (.status (p.status phase)) (.told next)

/-- Gives a pass the next number and tells its start. -/
def announce (s : Session) (p : Pass) : Session × Stage :=
  let p := { p with number := s.lastNumber + 1 }
  ({ s with lastNumber := p.number }, tell p (Phase.ofOptions p.request.options) (.configure p))

/-- Begins a pass. One that is to show what it finds first takes away what is shown. -/
def begin (s : Session) (r : Request) (ticket : Nat) : Session × Stage :=
  let p : Pass := { request := r, ticket, document := s.documents.get? r.url }
  if !r.options.format && p.document.isSome then
    (s, .store (.change r.url .clear (.announce p)))
  else s.announce p

def wantSettings (s : Session) (u : Url) (reader : Reader) : Session × Stage :=
  let (cells, n) := s.cells.ofDocument u
  ({ s with cells }, .cell u n reader)

/-- Wants the settings for a pass, as long as its document is open. A pass without a document
fails. -/
def configure (s : Session) (p : Pass) : Session × Stage :=
  match p.document with
  | none => (s, tell p .error (.release p []))
  | some _ =>
    if s.isOpen p.url then s.wantSettings p.url (.pass p)
    else (s, tell p .stop (.release p []))

/-- Goes on after the findings of a pass have been stored. They are taken back if the document has
been closed since. -/
def conclude (s : Session) (p : Pass) (r : Report) : Stage :=
  if !s.isOpen p.url then .store (.change p.url .purge (.close p []))
  else if p.request.options.format then tell p .stop (.release p r.formatEdits)
  else .store (.change p.url (.record r.artifact) (.close p []))

/-- Ends a pass. A request that waits for the document goes on with one of its own. -/
def release (s : Session) (p : Pass) (edits : List Edit) : Session × Stage :=
  match s.schedule.release p.url p.ticket with
  | (schedule, none) => ({ s with schedule }, .done (.edits edits))
  | (schedule, some (next, ticket)) => { s with schedule }.begin next ticket

def resume (s : Session) : Plan → Session × Stage
  | .announce p => s.announce p
  | .configure p => s.configure p
  | .conclude p r => (s, s.conclude p r)
  | .close p edits => (s, tell p .stop (.release p edits))
  | .release p edits => s.release p edits
  | .finish v => (s, .done v)

def leaveStore (s : Session) : Session := { s with turns := s.turns.pass }

/-- Does its work in the store in the turn of a task. The turn lasts while a publication is with
the editor. -/
def access (s : Session) : Access → Session × Stage
  | .change u c next =>
    match s.store.change u c with
    | (store, some shown) => ({ s with store }, .calling (.publish u shown) (.shown next))
    | (store, none) => { s with store }.leaveStore.resume next
  | .fix u code value =>
    match s.store.find u code with
    | none => (s.leaveStore, .done (.applied false))
    | some d => (s.leaveStore, .calling (.applyEdit u ⟨d.range, value⟩) (.applied u d))
  | .read _ [] v => (s.leaveStore, .done (.view v))
  | .read u [part] v => (s.leaveStore, .done (.view (s.readPart u v part)))
  | .read u (part :: parts) v => (s.leaveStore, .store (.read u parts (s.readPart u v part)))

def handOver (settings : Settings) : Reader → Stage
  | .pass p => .linting p settings
  | .caller => .done (.settings settings)

def goBack (s : Session) (answer : Answer) : Return → Session × Stage
  | .shown next => s.leaveStore.resume next
  | .told next => s.resume next
  | .configured n reader =>
    let settings := s.settingsFrom answer.configuration
    ({ s with cells := s.cells.fill n settings }, handOver settings reader)
  | .applied u d =>
    if answer.applied then (s, .store (.change u (.remove [d] false none) (.finish (.applied true))))
    else (s, .done (.applied false))

/-- Goes on when a document has been linted. -/
def settle (s : Session) (p : Pass) (settings : Settings) : Session × Stage :=
  match lint p.url p.document settings with
  | .error _ => (s, tell p .error (.release p []))
  | .ok r =>
    if s.isOpen p.url then
      (s, .store (.change p.url (.replace r.diagnostics r.fixes) (.conclude p r)))
    else (s, tell p .stop (.release p []))

def start (s : Session) : Job → Session × Stage
  | .validate r =>
    match s.schedule.submit r with
    | (schedule, none) => ({ s with schedule }, .done (.edits []))
    | (schedule, some ticket) => { s with schedule }.begin r ticket
  | .close u => (s.forget u, .store (.change u .purge (.finish .nothing)))
  | .settings u => s.wantSettings u .caller
  | .quickFix u code value => (s, .store (.fix u code value))
  | .read u parts => (s, .store (.read u parts {}))
  | .change u c => (s, .store (.change u c (.finish .nothing)))

/-- Takes the turn in the store for a task that wants it, if it can be had. -/
def enterStore (s : Session) (id : Nat) (a : Access) : Session × Stage :=
  let s := { s with turns := s.turns.request id }
  if s.turns.isHeldBy id then s.access a else (s, .store a)

/-- Takes the settings from a cell; the holder of its turn asks the editor for them. -/
def readCell (s : Session) (id : Nat) (u : Url) (n : Nat) (reader : Reader) : Session × Stage :=
  let cell := s.cells.get n
  match cell.value with
  | some settings => (s, handOver settings reader)
  | none =>
    let turns := cell.turns.request id
    let s := { s with cells := s.cells.set n { cell with turns } }
    if turns.isHeldBy id then (s, .calling (.configuration u) (.configured n reader))
    else (s, .cell u n reader)

/-- The next stage of task `id`. A task that waits stays where it is. -/
def advance (s : Session) (id : Nat) : Stage → Session × Stage
  | .fresh job => s.start job
  | .store a => s.enterStore id a
  | .back next answer => s.goBack answer next
  | .cell u n reader => s.readCell id u n reader
  | .linted p settings => s.settle p settings
  | stage => (s, stage)

end Session

end Considerate
