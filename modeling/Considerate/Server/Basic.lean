import Considerate.Protocol.Message
import Considerate.Server.Debounce
import Considerate.Session.Run
import Considerate.Url.File

namespace Considerate

open Protocol (RequestError RequestId)

namespace Server

/-- How far the server is on its way from start to exit. -/
inductive Lifecycle where
  | uninitialized
  | initialized
  | shutDown
  | exited
  deriving DecidableEq, Repr

/-- What a task has been started for. -/
inductive Purpose where
  | edits (id : RequestId)
  | acknowledgement (id : RequestId)
  | applied (id : RequestId)
  | actions (id : RequestId) (url : Url) (range : Range)
  /-- A document has changed; its settings say whether it is linted after a delay. -/
  | changed (url : Url) (version : Int32)
  | saved (url : Url)
  | background
  deriving DecidableEq, Repr

def Purpose.request? : Purpose → Option RequestId
  | edits id | acknowledgement id | applied id | actions id _ _ => some id
  | changed _ _ | saved _ | background => none

/-- What comes out of the server. -/
inductive Output where
  | sent (m : Protocol.Message)
  | answered (id : RequestId) (result : Except RequestError Json)
  | unanswered (id : RequestId)

end Server

open Server in
structure Server where
  run : Session.Run := {}
  life : Lifecycle := .uninitialized
  files : Files := {}
  root : Option String := none
  purposes : Keyed Nat Purpose := {}
  delays : List Delay := []
  now : Nat := 0
  lastTask : Nat := 0

namespace Server

/-- Whether messages reach the editor. -/
def isConnected (s : Server) : Bool := s.life = .initialized || s.life = .shutDown

def launch (s : Server) (job : Job) (purpose : Purpose) : Server :=
  let id := s.lastTask + 1
  { s with
    run := (s.run.act (.call id job)).1
    purposes := s.purposes.set id purpose
    lastTask := id }

def lintLater (s : Server) (url : Url) : Server := s.launch (.validate ⟨url, {}⟩) .background

/-- Lints all open documents in the background. -/
def lintAll (s : Server) : Server := s.run.session.documents.keys.foldl lintLater s

def act (s : Server) (a : Session.Action) : Server := { s with run := (s.run.act a).1 }

/-- Takes the settings from the file of the workspace, if there is a workspace. -/
def reload (s : Server) : Server :=
  match s.root with
  | none => s
  | some root => s.act (.reload s.files root)

/-- What comes of a task that has ended. -/
def conclude (s : Server) : Purpose → Value → Server × List Output
  | .edits id, .edits es => (s, [.answered id (.ok (Protocol.editsJson es))])
  | .applied id, .applied b => (s, [.answered id (.ok (.bool b))])
  | .actions id url range, .view v =>
    let actions := CodeAction.offered url range v.findings
    (s, [.answered id (.ok (.arr (actions.map CodeAction.toJson)))])
  | .changed url version, .settings settings =>
    if settings.strategy = .onType then
      ({ s with delays := s.delays ++ [Delay.starting s.now url version] }, [])
    else (s, [])
  | .saved url, .settings settings =>
    (if settings.strategy = .onSave then s.lintLater url else s, [])
  | purpose, _ => (s, (purpose.request?.map fun id => .answered id (.ok .null)).toList)

def observe (s : Server) : Session.Effect → Server × List Output
  | .called _ c => (s, if s.isConnected then [.sent c.message] else [])
  | .finished id v =>
    match s.purposes.get? id with
    | none => (s, [])
    | some purpose => { s with purposes := s.purposes.erase id }.conclude purpose v
  | _ => (s, [])

def observeAll (s : Server) : List Session.Effect → Server × List Output
  | [] => (s, [])
  | e :: es =>
    let (s, out) := s.observe e
    let (s, more) := s.observeAll es
    (s, out ++ more)

/-- Goes on until all tasks wait, but at most `n` stages. -/
def steps (n : Nat) (s : Server) : Server × List Output :=
  match n with
  | 0 => (s, [])
  | n + 1 =>
    match s.run.step with
    | none => (s, [])
    | some (run, effects) =>
      let (s, out) := { s with run }.observeAll effects
      let (s, more) := steps n s
      (s, out ++ more)

/-- Goes on until all tasks wait. A task whose end starts another stays within the bound. -/
def settle (s : Server) : Server × List Output := s.steps s.run.bound

/-- The lints whose delay is over, of those documents that have not changed since. -/
def dueUrls (s : Server) : List Url :=
  ((s.delays.filter (Delay.isOver s.now)).filter fun d =>
    match s.run.session.documents.get? d.url with
    | none => false
    | some document => document.version = d.version).map Delay.url

/-- Lets time pass. -/
def advance (s : Server) (milliseconds : Nat) : Server × List Output :=
  let s := { s with now := s.now + milliseconds }
  let urls := s.dueUrls
  let s := { s with delays := s.delays.filter fun d => !d.isOver s.now }
  (urls.foldl lintLater s).settle

/-- Takes the answer to the call at place `n` among those that the editor holds back; none if
there is no such call. -/
def reply (s : Server) (n : Nat) (result : Option Json) : Option (Server × List Output) :=
  match s.run.held[n]? with
  | none => none
  | some (_, kind) =>
    let answer : Answer :=
      match kind with
      | .configuration => { configuration := Answer.ofConfiguration result }
      | .applyEdit => { applied := Answer.ofEdit result }
      | _ => {}
    some { s with run := s.run.answerHeld n answer }.settle

/-- Lets the editor answer a kind of call in this way from now on, or hold such calls back. -/
def setAnswer (s : Server) (kind : Call.Kind) (held : Bool) (result : Option Json) : Server :=
  let e := s.run.editor
  let others := e.holds.filter (· ≠ kind)
  let answer : Answer :=
    match kind with
    | .configuration => { e.answer with configuration := Answer.ofConfiguration result }
    | .applyEdit => { e.answer with applied := Answer.ofEdit result }
    | _ => e.answer
  { s with run := { s.run with editor :=
      if held then { e with holds := kind :: others } else { e with holds := others, answer } } }

end Server

end Considerate
