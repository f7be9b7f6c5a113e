import Considerate.Protocol.Params

namespace Considerate.Server

/-- What a request asks for. -/
inductive Query where
  | codeAction
  | executeCommand
  | formatting
  | place (params : String)
  | unsupported
  deriving DecidableEq, Repr

inductive Notice where
  | initialized
  | opened
  | changed
  | saved
  | closed
  | configurationChanged
  | filesChanged
  | other
  deriving DecidableEq, Repr

inductive Method where
  | start
  | shutdown
  | exit
  | cancel
  | query (q : Query)
  | notice (n : Notice)
  deriving DecidableEq, Repr

namespace Method

def served : List (String × Method) := [
  ("initialize", .start),
  ("shutdown", .shutdown),
  ("exit", .exit),
  ("$/cancelRequest", .cancel),
  ("initialized", .notice .initialized),
  ("textDocument/didOpen", .notice .opened),
  ("textDocument/didChange", .notice .changed),
  ("textDocument/didSave", .notice .saved),
  ("textDocument/didClose", .notice .closed),
  ("workspace/didChangeConfiguration", .notice .configurationChanged),
  ("workspace/didChangeWatchedFiles", .notice .filesChanged),
  ("textDocument/codeAction", .query .codeAction),
  ("textDocument/formatting", .query .formatting),
  ("workspace/executeCommand", .query .executeCommand)]

/-- Requests about a place, and what their parameters are called. -/
def aboutPlaces : List (String × String) := [
  ("textDocument/hover", "HoverParams"),
  ("textDocument/definition", "GotoDefinitionParams"),
  ("textDocument/declaration", "GotoDefinitionParams"),
  ("textDocument/typeDefinition", "GotoDefinitionParams"),
  ("textDocument/implementation", "GotoDefinitionParams"),
  ("textDocument/documentHighlight", "DocumentHighlightParams"),
  ("textDocument/completion", "CompletionParams"),
  ("textDocument/signatureHelp", "SignatureHelpParams"),
  ("textDocument/linkedEditingRange", "LinkedEditingRangeParams"),
  ("textDocument/moniker", "MonikerParams"),
  ("textDocument/prepareCallHierarchy", "CallHierarchyPrepareParams"),
  ("textDocument/prepareTypeHierarchy", "TypeHierarchyPrepareParams"),
  ("textDocument/prepareRename", "TextDocumentPositionParams")]

/-- Other requests that the server has no answer for. -/
def unanswerable : List String := [
  "textDocument/willSaveWaitUntil", "textDocument/references", "callHierarchy/incomingCalls",
  "callHierarchy/outgoingCalls", "typeHierarchy/supertypes", "typeHierarchy/subtypes",
  "textDocument/documentLink", "documentLink/resolve", "textDocument/codeLens",
  "codeLens/resolve", "textDocument/foldingRange", "textDocument/selectionRange",
  "textDocument/documentSymbol", "textDocument/semanticTokens/full",
  "textDocument/semanticTokens/full/delta", "textDocument/semanticTokens/range",
  "textDocument/inlineValue", "textDocument/inlayHint", "inlayHint/resolve",
  "completionItem/resolve", "textDocument/diagnostic", "workspace/diagnostic",
  "codeAction/resolve", "textDocument/documentColor", "textDocument/colorPresentation",
  "textDocument/rangeFormatting", "textDocument/onTypeFormatting", "textDocument/rename",
  "workspace/symbol", "workspaceSymbol/resolve", "workspace/willCreateFiles",
  "workspace/willRenameFiles", "workspace/willDeleteFiles"]

/-- Notices that do not matter to the server. -/
def ignored : List String := [
  "textDocument/willSave", "workspace/didChangeWorkspaceFolders", "workspace/didCreateFiles",
  "workspace/didRenameFiles", "workspace/didDeleteFiles"]

def ofName (name : String) : Option Method :=
  match served.find? fun m => m.1 = name with
  | some (_, m) => some m
  | none =>
    match aboutPlaces.find? fun m => m.1 = name with
    | some (_, params) => some (.query (.place ("struct " ++ params)))
    | none =>
      if unanswerable.contains name then some (.query .unsupported)
      else if ignored.contains name then some (.notice .other)
      else none

end Method

end Considerate.Server
