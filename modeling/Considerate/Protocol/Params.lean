import Considerate.Diagnostic.Json
import Considerate.Json.Fields
import Considerate.Lint
import Considerate.Protocol.Error

namespace Considerate.Protocol

open Decode

def numberOrText : Decoder RequestId := fun j =>
  (Code.decode j).map fun
    | .text s => .text s
    | .number n => .number n.toInt

def identifier : Decoder Url := fun j => do
  let fs ← fields "struct TextDocumentIdentifier" 1 [("uri", must Url.decode)] j
  need "uri" Url.decode fs

/-- A record that names a document, with other fields. -/
def aboutDocument (name : String) (required : Nat) (others : List (String × Check)) :
    Decoder (Url × List (String × Json)) := fun j => do
  let fs ← fields name required (("textDocument", must identifier) :: others) j
  return (← need "textDocument" identifier fs, fs)

def openedItem : Decoder (Url × Document) := fun j => do
  let fs ← fields "struct TextDocumentItem" 4
    [("uri", must Url.decode), ("languageId", must string), ("version", must int32),
      ("text", must string)] j
  let url ← need "uri" Url.decode fs
  let language ← need "languageId" string fs
  let version ← need "version" int32 fs
  let text ← need "text" string fs
  return (url, { text, version, filetype := Filetype.ofLanguage language })

def opened : Decoder (Url × Document) := fun j => do
  let fs ← fields "struct DidOpenTextDocumentParams" 1 [("textDocument", must openedItem)] j
  need "textDocument" openedItem fs

def versioned : Decoder (Url × Int32) := fun j => do
  let fs ← fields "struct VersionedTextDocumentIdentifier" 2
    [("uri", must Url.decode), ("version", must int32)] j
  return (← need "uri" Url.decode fs, ← need "version" int32 fs)

def changedText : Decoder String := fun j => do
  let fs ← fields "struct TextDocumentContentChangeEvent" 3
    [("range", must (option Range.decode)), ("rangeLength", must (option uint32)),
      ("text", must string)] j
  need "text" string fs

/-- A change of a document: its version, and the texts that it has had one after the other. -/
structure Changed where
  url : Url
  version : Int32
  texts : List String
  deriving DecidableEq, Repr

def changed : Decoder Changed := fun j => do
  let fs ← fields "struct DidChangeTextDocumentParams" 2
    [("textDocument", must versioned), ("contentChanges", must (list changedText))] j
  let (url, version) ← need "textDocument" versioned fs
  return { url, version, texts := ← need "contentChanges" (list changedText) fs }

def saved : Decoder Url := fun j => do
  let (url, _) ← aboutDocument "struct DidSaveTextDocumentParams" 2
    [("text", must (option string))] j
  return url

def closed : Decoder Url := fun j => do
  let (url, _) ← aboutDocument "struct DidCloseTextDocumentParams" 1 [] j
  return url

def configurationChanged : Decoder Unit := fun j => do
  let fs ← fields "struct DidChangeConfigurationParams" 1 [("settings", must any)] j
  let _ ← need "settings" any fs

def fileEvent : Decoder Url := fun j => do
  let fs ← fields "struct FileEvent" 2 [("uri", must Url.decode), ("type", must int32)] j
  let url ← need "uri" Url.decode fs
  let _ ← need "type" int32 fs
  return url

def filesChanged : Decoder (List Url) := fun j => do
  let fs ← fields "struct DidChangeWatchedFilesParams" 1 [("changes", must (list fileEvent))] j
  need "changes" (list fileEvent) fs

def canceled : Decoder RequestId := fun j => do
  let fs ← fields "struct CancelParams" 1 [("id", must numberOrText)] j
  need "id" numberOrText fs

/-- The tokens with which an editor asks for reports on the way. -/
def progress (names : List String) (j : Json) : Except DecodeError Unit :=
  names.forM fun n =>
    match j.get? n with
    | none => .ok ()
    | some v => (option numberOrText v).map fun _ => ()

def workDone : List String := ["workDoneToken"]

def partialResults : List String := ["workDoneToken", "partialResultToken"]

/-- What the editor asks code actions for. -/
structure ActionQuery where
  url : Url
  range : Range
  only : Option (List String)
  deriving DecidableEq, Repr

def actionContext : Decoder (Option (List String)) := fun j => do
  let fs ← fields "struct CodeActionContext" 3
    [("diagnostics", must (list Diagnostic.decode)), ("only", must (option (list string))),
      ("triggerKind", must (option int32))] j
  let _ ← need "diagnostics" (list Diagnostic.decode) fs
  want "only" (list string) fs

def actionQuery : Decoder ActionQuery := fun j => do
  let fs ← objectFields "struct CodeActionParams"
    [("textDocument", must identifier), ("range", must Range.decode),
      ("context", must actionContext)] j
  let url ← need "textDocument" identifier fs
  let range ← need "range" Range.decode fs
  let only ← need "context" actionContext fs
  progress partialResults j
  return { url, range, only }

structure Command where
  name : String
  arguments : List Json

def command : Decoder Command := fun j => do
  let fs ← objectFields "struct ExecuteCommandParams"
    [("command", must string), ("arguments", must (list any))] j
  let name ← need "command" string fs
  progress workDone j
  match fs.find? fun f => f.1 = "arguments" with
  | none => return { name, arguments := [] }
  | some (_, v) => return { name, arguments := ← list any v }

/-- The arguments of a quick fix: the code of a diagnostic, its document, and the replacement. -/
def quickFixArguments : List Json → Except DecodeError (String × Url × String)
  | [] => .error (.invalidLength 0 size)
  | a :: rest => do
    let code ← string a
    match rest with
    | [] => .error (.invalidLength 1 size)
    | b :: rest =>
      let url ← Url.decode b
      match rest with
      | [] => .error (.invalidLength 2 size)
      | c :: more =>
        let value ← string c
        if more.isEmpty then return (code, url, value)
        else .error (.invalidLength (3 + more.length) "fewer elements in array")
where
  size := "a tuple of size 3"

/-- An option of a formatter that has no name of its own. -/
def formattingProperty : Decoder Unit
  | .bool _ => .ok ()
  | .str _ => .ok ()
  | j =>
    match int32 j with
    | .ok _ => .ok ()
    | .error _ => .error (.unmatched "FormattingProperty")

def formattingChecks : List (String × Check) :=
  [("tabSize", must uint32), ("insertSpaces", must bool),
    ("trimTrailingWhitespace", must (option bool)), ("insertFinalNewline", must (option bool)),
    ("trimFinalNewlines", must (option bool))]

def formattingOptions : Decoder Unit := fun j => do
  let fs ← objectFields "struct FormattingOptions" formattingChecks j
  let _ ← need "tabSize" uint32 fs
  let _ ← need "insertSpaces" bool fs
  match j with
  | .obj all =>
    (all.filter fun f => !formattingChecks.any fun c => c.1 = f.1).forM fun f =>
      formattingProperty f.2
  | _ => return ()

def formatted : Decoder Url := fun j => do
  let fs ← objectFields "struct DocumentFormattingParams"
    [("textDocument", must identifier), ("options", must formattingOptions)] j
  let url ← need "textDocument" identifier fs
  let _ ← need "options" formattingOptions fs
  progress workDone j
  return url

/-- What the editor is able to do, as far as it has to be right. -/
def capabilities : Decoder Unit := fun j => do
  objectNamed "struct ClientCapabilities" j
  let _ ← objectFields "struct ClientCapabilities"
    [("workspace", must (option (objectNamed "struct WorkspaceClientCapabilities"))),
      ("textDocument", must (option (objectNamed "struct TextDocumentClientCapabilities"))),
      ("window", must (option (objectNamed "struct WindowClientCapabilities"))),
      ("general", must (option (objectNamed "struct GeneralClientCapabilities")))] j
  return ()

def workspaceFolder : Decoder Unit := fun j => do
  let fs ← fields "struct WorkspaceFolder" 2 [("uri", must Url.decode), ("name", must string)] j
  let _ ← need "uri" Url.decode fs
  let _ ← need "name" string fs

def clientInfo : Decoder Unit := fun j => do
  let fs ← fields "struct ClientInfo" 2
    [("name", must string), ("version", must (option string))] j
  let _ ← need "name" string fs

/-- How much the editor wants to be told. -/
inductive Trace where
  | off
  | messages
  | verbose
  deriving DecidableEq, Repr

def Trace.all : List Trace := [.off, .messages, .verbose]

def Trace.name : Trace → String
  | off => "off"
  | messages => "messages"
  | verbose => "verbose"

def initialized : Decoder (Option Url) := fun j => do
  let fs ← fields "struct InitializeParams" 9
    [("processId", must (option uint32)), ("rootPath", must (option string)),
      ("rootUri", must (option Url.decode)), ("initializationOptions", must any),
      ("capabilities", must capabilities), ("trace", must (option (variant Trace.all Trace.name))),
      ("workspaceFolders", must (option (list workspaceFolder))),
      ("clientInfo", must (option clientInfo)), ("locale", must (option string))] j
  let _ ← need "capabilities" capabilities fs
  want "rootUri" Url.decode fs

def placeInDocument (name : String) : Decoder Unit := fun j => do
  let fs ← objectFields name
    [("textDocument", must identifier), ("position", must Position.decode)] j
  let _ ← need "textDocument" identifier fs
  let _ ← need "position" Position.decode fs

end Considerate.Protocol
