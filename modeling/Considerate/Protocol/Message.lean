import Considerate.CodeAction
import Considerate.Diagnostic.Json
import Considerate.Protocol.Error
import Considerate.Session.Call

namespace Considerate

namespace Protocol

/-- A message that is sent; a request waits for an answer. -/
structure Message where
  method : String
  params : Json
  isRequest : Bool := false

def settingsSection : String := "kindlint"

/-- A note for the editor's log. -/
def logMessage (text : String) : Message :=
  { method := "window/logMessage", params := .obj [("message", .str text), ("type", .int 3)] }

def editsJson (es : List Edit) : Json := .arr (es.map Edit.toJson)

def workspaceEdit (url : Url) (e : Edit) : Json :=
  .obj [("changes", .obj [(url.text, editsJson [e])])]

end Protocol

open Protocol

def Call.message : Call → Protocol.Message
  | .publish url ds =>
    { method := "textDocument/publishDiagnostics"
      params := .obj [("diagnostics", .arr (ds.map Diagnostic.toJson)), ("uri", url.toJson)] }
  | .status s => { method := "kindlint/status", params := s.toJson }
  | .configuration url =>
    { method := "workspace/configuration"
      params := .obj [("items", .arr [.obj [("scopeUri", url.toJson), ("section", .str settingsSection)]])]
      isRequest := true }
  | .applyEdit url e =>
    { method := "workspace/applyEdit"
      params := .obj [("edit", workspaceEdit url e)]
      isRequest := true }

def CodeAction.toJson (a : CodeAction) : Json :=
  .obj [
    ("command", .obj [
      ("arguments", .arr [.str a.code, a.url.toJson, .str a.fix.value]),
      ("command", .str quickFixCommand), ("title", .str quickFixTitle)]),
    ("diagnostics", .arr [a.diagnostic.toJson]),
    ("kind", .str quickFixKind),
    ("title", .str a.fix.label)]

namespace Protocol

def lintCommand : String := "kindlint.lint"

/-- What the server can do: whole texts after each change, quick fixes, formatting and commands. -/
def serverCapabilities : Json :=
  .obj [
    ("codeActionProvider", .obj [
      ("codeActionKinds", .arr [.str CodeAction.quickFixKind]), ("resolveProvider", .bool false)]),
    ("documentFormattingProvider", .bool true),
    ("executeCommandProvider", .obj [
      ("commands", .arr [.str lintCommand, .str CodeAction.quickFixCommand])]),
    ("textDocumentSync", .obj [
      ("change", .int 1), ("openClose", .bool true),
      ("save", .obj [("includeText", .bool true)])])]

/-- What the server says of itself when it is initialized. -/
def introduction : Json :=
  .obj [
    ("capabilities", serverCapabilities),
    ("serverInfo", .obj [("name", .str "kindlint-lsp"), ("version", .str "0.1.0")])]

end Protocol

namespace Answer

open Decode

/-- What the editor answers to a question for settings: the first of the values that it sends. -/
def ofConfiguration (result : Option Json) : Option Json :=
  match result with
  | some (.arr (v :: _)) => some v
  | _ => none

/-- The fields of an answer to an edit that have been read. -/
def putApplied (b : Option Bool) : String × Json → Except DecodeError (Option Bool)
  | ("applied", v) => (bool v).map some
  | ("failureReason", v) => (option string v).map fun _ => b
  | ("failedChange", v) => (option uint32 v).map fun _ => b
  | _ => .ok b

/-- Whether the editor has made an edit; an answer that cannot be read says that it has not. -/
def ofEdit (result : Option Json) : Bool :=
  match result with
  | none => false
  | some j =>
    match record ⟨"struct ApplyWorkspaceEditResponse",
        ["applied", "failureReason", "failedChange"], 3⟩ none putApplied j with
    | .ok (some b) => b
    | _ => false

end Answer

end Considerate
