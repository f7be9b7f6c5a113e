import Considerate.Json.Printer
import Considerate.Server.Basic
import Considerate.Server.Method

namespace Considerate.Server

open Protocol

/-- A message from the editor; a request has an id. -/
structure Incoming where
  method : String
  params : Option Json := none
  id : Option RequestId := none

def readParams {α : Type} (d : Decode.Decoder α) : Option Json → Except RequestError α
  | none => .error (.invalidParams "Missing params field")
  | some j => (d j).mapError fun e => .invalidParams e.message

def noParams : Option Json → Except RequestError Unit
  | none => .ok ()
  | some j => .error (.invalidParams ("Unexpected params: " ++ j.compact))

/-- Answers a request; a notice is not answered. -/
def reject (s : Server) (id : Option RequestId) (e : RequestError) : Server × List Output :=
  (s, (id.map fun id => .answered id (.error e)).toList)

/-- Why a message is out of time, if it is. -/
def untimely (s : Server) : Option RequestError :=
  match s.life with
  | .initialized => none
  | .uninitialized => some .notInitialized
  | .shutDown | .exited => some .invalidRequest

def enterWorkspace (s : Server) (root : Option Url) : Server :=
  match root.bind Url.filePath? with
  | none => s
  | some path => { s with root := some path }.reload

def start (s : Server) (params : Option Json) (id : RequestId) : Server × List Output :=
  match readParams Protocol.initialized params with
  | .error e => s.reject (some id) e
  | .ok root =>
    ({ s.enterWorkspace root with life := .initialized }, [.answered id (.ok introduction)])

/-- Shuts down, even if the parameters are wrong. -/
def shutdown (s : Server) (params : Option Json) (id : Option RequestId) : Server × List Output :=
  match s.untimely with
  | some e => s.reject id e
  | none =>
    let s := { s with life := .shutDown }
    match id with
    | none => (s, [])
    | some id =>
      match noParams params with
      | .error e => s.reject (some id) e
      | .ok _ => (s, [.answered id (.ok .null)])

def tasksFor (s : Server) (which : RequestId → Bool) : List (Nat × RequestId) :=
  s.purposes.entries.filterMap fun (task, purpose) =>
    match purpose.request? with
    | none => none
    | some id => if which id then some (task, id) else none

def dropTask (s : Server) (task : Nat × RequestId) : Server × List Output :=
  ({ s with run := (s.run.drop task.1).1, purposes := s.purposes.erase task.1 },
    [.answered task.2 (.error .canceled)])

def cancelWhere (s : Server) (which : RequestId → Bool) : Server × List Output :=
  (s.tasksFor which).foldl (fun (s, out) task =>
    let (s, more) := s.dropTask task
    (s, out ++ more)) (s, [])

/-- Stops: all requests are canceled, and the editor is not reached any more. -/
def exit (s : Server) : Server × List Output :=
  let (s, out) := s.cancelWhere fun _ => true
  ({ s with
      life := .exited
      run := { s.run with editor := { answer := { configuration := none, applied := false } } } },
    out)

/-- Asks for the actions at a range, if quick fixes are wanted. -/
def offerActions (s : Server) (q : ActionQuery) (id : RequestId) : Server × List Output :=
  let wanted := match q.only with
    | none => true
    | some kinds => kinds.contains CodeAction.quickFixKind
  if wanted then
    (s.launch (.read q.url [.diagnostics, .fixes]) (.actions id q.url q.range), [])
  else (s, [.answered id (.ok (.arr []))])

def execute (s : Server) (c : Command) (id : RequestId) : Server × List Output :=
  if c.name = lintCommand then
    match s.run.session.current with
    | none => (s, [.answered id (.ok .null)])
    | some url => (s.launch (.validate ⟨url, {}⟩) (.acknowledgement id), [])
  else if c.name = CodeAction.quickFixCommand then
    match quickFixArguments c.arguments with
    | .error e => s.reject (some id) (.invalidParams ("Invalid quick fix arguments: " ++ e.message))
    | .ok (code, url, value) => (s.launch (.quickFix url code value) (.applied id), [])
  else s.reject (some id) (.invalidParams ("Unknown command: " ++ c.name))

def answerQuery (s : Server) (q : Query) (params : Option Json) (id : RequestId) :
    Server × List Output :=
  match q with
  | .codeAction =>
    match readParams actionQuery params with
    | .error e => s.reject (some id) e
    | .ok q => s.offerActions q id
  | .executeCommand =>
    match readParams command params with
    | .error e => s.reject (some id) e
    | .ok c => s.execute c id
  | .formatting =>
    match readParams formatted params with
    | .error e => s.reject (some id) e
    | .ok url => (s.launch (.validate ⟨url, { format := true }⟩) (.edits id), [])
  | .place name =>
    match readParams (placeInDocument name) params with
    | .error e => s.reject (some id) e
    | .ok _ => s.reject (some id) .unsupported
  | .unsupported =>
    match readParams Decode.any params with
    | .error e => s.reject (some id) e
    | .ok _ => s.reject (some id) .unsupported

def isSettingsPath (path : String) : Bool := Settings.fileNames.any fun n => path.endsWith n

/-- Takes the last of the texts that a document has had, and looks whether to lint it later. -/
def changeDocument (s : Server) (c : Changed) : Server :=
  match c.texts.getLast? with
  | none => s
  | some text =>
    if s.run.session.isOpen c.url then
      (s.act (.changeText c.url text c.version)).launch (.settings c.url) (.changed c.url c.version)
    else s

/-- What a notice makes of the server. -/
def heed (s : Server) (n : Notice) (params : Option Json) : Server × List Output :=
  match n with
  | .initialized =>
    match readParams (Decode.objectNamed "struct InitializedParams") params with
    | .error _ => (s, [])
    | .ok _ => (s, [.sent (logMessage "kindlint LSP server initialized!")])
  | .opened =>
    match readParams Protocol.opened params with
    | .error _ => (s, [])
    | .ok (url, d) => ((s.act (.openDocument url d)).lintLater url, [])
  | .changed =>
    match readParams Protocol.changed params with
    | .error _ => (s, [])
    | .ok c => (s.changeDocument c, [])
  | .saved =>
    match readParams Protocol.saved params with
    | .error _ => (s, [])
    | .ok url => (s.launch (.settings url) (.saved url), [])
  | .closed =>
    match readParams Protocol.closed params with
    | .error _ => (s, [])
    | .ok url => (s.launch (.close url) .background, [])
  | .configurationChanged =>
    match readParams Protocol.configurationChanged params with
    | .error _ => (s, [])
    | .ok _ => ((s.act (.invalidate none)).lintAll, [])
  | .filesChanged =>
    match readParams Protocol.filesChanged params with
    | .error _ => (s, [])
    | .ok urls =>
      if urls.any fun u => isSettingsPath u.path.text then
        ((s.reload.act (.invalidate none)).lintAll, [])
      else (s, [])
  | .other => (s, [])

/-- Takes a message in. A request for what is a notice gets no answer, and a notice of what is a
request does nothing. -/
def accept (s : Server) (m : Incoming) : Server × List Output :=
  let unanswered : List Output := (m.id.map Output.unanswered).toList
  match Method.ofName m.method with
  | none =>
    if m.method.startsWith "$/" then (s, unanswered)
    else s.reject m.id (.unknownMethod m.method)
  | some .start =>
    if s.life ≠ .uninitialized then s.reject m.id .invalidRequest
    else
      match m.id with
      | none => (s, [])
      | some id => s.start m.params id
  | some .shutdown => s.shutdown m.params m.id
  | some .exit =>
    let (s, out) := s.exit
    (s, out ++ unanswered)
  | some .cancel =>
    match m.id, readParams Protocol.canceled m.params with
    | none, .ok id => s.cancelWhere (· = id)
    | _, _ => (s, unanswered)
  | some (.query q) =>
    match s.untimely, m.id with
    | some e, id => s.reject id e
    | none, none => (s, [])
    | none, some id =>
      if (s.tasksFor (· = id)).isEmpty then s.answerQuery q m.params id
      else s.reject (some id) .invalidRequest
  | some (.notice n) =>
    match s.untimely, m.id with
    | some e, id => s.reject id e
    | none, some _ => (s, unanswered)
    | none, none => s.heed n m.params

/-- The paths of the files that a message may lead the server to read. -/
def pathsFor (s : Server) (m : Incoming) : List String :=
  let root :=
    match Method.ofName m.method with
    | some .start =>
      match readParams Protocol.initialized m.params with
      | .ok (some url) => url.filePath?
      | _ => none
    | _ => s.root
  match root with
  | none => []
  | some path => Settings.fileNames.map fun n => path ++ "/" ++ n

/-- Takes a message in and goes on until all tasks wait; none after the exit. -/
def receive (s : Server) (m : Incoming) : Option (Server × List Output) :=
  if s.life = .exited then none
  else
    let (s, out) := s.accept m
    let (s, more) := s.settle
    some (s, out ++ more)

end Considerate.Server
