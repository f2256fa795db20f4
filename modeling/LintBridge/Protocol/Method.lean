import LintBridge.Protocol.Capabilities

namespace LintBridge.Protocol

open Shape

def openParams : Shape := compound [req "textDocument" documentItem]

def saveParams : Shape := compound [req "textDocument" documentId, opt "text" .text]

def closeParams : Shape := compound [req "textDocument" documentId]

def configurationParams : Shape := compound [req "settings" .any]

def foldersParams : Shape :=
  compound [req "event" (compound [req "added" (.list workspaceFolder), req "removed" (.list workspaceFolder)])]

def willSaveParams : Shape := compound [req "textDocument" documentId, req "reason" i32]

def atPlace (more : List (String × Presence × Shape)) : Shape := object (place ++ progress ++ more)

def inDocument (more : List (String × Presence × Shape)) : Shape :=
  object (req "textDocument" documentId :: progress ++ partialResult ++ more)

def completionItem : Shape :=
  compound [req "label" .text, opt "labelDetails" (compound [opt "detail" .text, opt "description" .text]),
    opt "kind" i32, opt "detail" .text, opt "documentation" textOrMarkup, opt "deprecated" .flag,
    opt "preselect" .flag, opt "sortText" .text, opt "filterText" .text, opt "insertText" .text,
    opt "insertTextFormat" i32, opt "insertTextMode" i32,
    opt "textEdit" (oneOfList [textEdit,
      compound [req "newText" .text, req "insert" range, req "replace" range]]),
    opt "additionalTextEdits" (.list textEdit), opt "command" command, opt "commitCharacters" (.list .text),
    opt "data" .any, opt "tags" (.list i32)]

def signatureHelp : Shape :=
  let parameter := compound [req "label" (oneOfList [.text, .tuple (shapes [u32, u32])]), opt "documentation" textOrMarkup]
  let signature := compound [req "label" .text, opt "documentation" textOrMarkup, opt "parameters" (.list parameter),
    opt "activeParameter" u32]
  compound [req "signatures" (.list signature), opt "activeSignature" u32, opt "activeParameter" u32]

def codeAction : Shape :=
  compound [req "title" .text, opt "kind" .text, opt "diagnostics" (.list diagnosticShape),
    opt "edit" workspaceEdit, opt "command" command, opt "isPreferred" .flag,
    opt "disabled" (compound [req "reason" .text]), opt "data" .any]

def hierarchyItem (tags : Shape) : Shape :=
  compound [req "name" .text, req "kind" i32, opt "tags" tags, opt "detail" .text, req "uri" .uri,
    req "range" range, req "selectionRange" range, opt "data" .any]

def callItem : Shape := object (req "item" (hierarchyItem (.list i32)) :: progress ++ partialResult)

def typeItem : Shape := object (req "item" (hierarchyItem i32) :: progress ++ partialResult)

def inlayHint : Shape :=
  let part := compound [req "value" .text, opt "tooltip" textOrMarkup, opt "location" location, opt "command" command]
  compound [req "position" position, req "label" (oneOfList [.text, .list part]), opt "kind" i32,
    opt "textEdits" (.list textEdit), opt "tooltip" textOrMarkup, opt "paddingLeft" .flag,
    opt "paddingRight" .flag, opt "data" .any]

def color : Shape :=
  compound [req "red" .number, req "green" .number, req "blue" .number, req "alpha" .number]

def files (fs : List (String × Presence × Shape)) : Shape := compound [req "files" (.list (compound fs))]

def unservedRequests : List (String × Shape) := [
  ("textDocument/willSaveWaitUntil", willSaveParams),
  ("textDocument/declaration", atPlace partialResult),
  ("textDocument/definition", atPlace partialResult),
  ("textDocument/typeDefinition", atPlace partialResult),
  ("textDocument/implementation", atPlace partialResult),
  ("textDocument/references",
    atPlace (partialResult ++ [req "context" (compound [req "includeDeclaration" .flag])])),
  ("textDocument/prepareCallHierarchy", atPlace []),
  ("callHierarchy/incomingCalls", callItem),
  ("callHierarchy/outgoingCalls", callItem),
  ("textDocument/prepareTypeHierarchy", atPlace []),
  ("typeHierarchy/supertypes", typeItem),
  ("typeHierarchy/subtypes", typeItem),
  ("textDocument/documentHighlight", atPlace partialResult),
  ("textDocument/documentLink", inDocument []),
  ("documentLink/resolve",
    compound [req "range" range, opt "target" .uri, opt "tooltip" .text, opt "data" .any]),
  ("textDocument/hover", atPlace []),
  ("textDocument/codeLens", inDocument []),
  ("codeLens/resolve", compound [req "range" range, opt "command" command, opt "data" .any]),
  ("textDocument/foldingRange", inDocument []),
  ("textDocument/selectionRange", inDocument [req "positions" (.list position)]),
  ("textDocument/documentSymbol", inDocument []),
  ("textDocument/semanticTokens/full", inDocument []),
  ("textDocument/semanticTokens/full/delta", inDocument [req "previousResultId" .text]),
  ("textDocument/semanticTokens/range", inDocument [req "range" range]),
  ("textDocument/inlineValue",
    object (progress ++ [req "textDocument" documentId, req "range" range,
      req "context" (compound [req "frameId" i32, req "stoppedLocation" range])])),
  ("textDocument/inlayHint", object (progress ++ [req "textDocument" documentId, req "range" range])),
  ("inlayHint/resolve", inlayHint),
  ("textDocument/moniker", atPlace partialResult),
  ("textDocument/completion",
    atPlace (partialResult ++ [opt "context" (compound [req "triggerKind" i32, opt "triggerCharacter" .text])])),
  ("completionItem/resolve", completionItem),
  ("textDocument/diagnostic", inDocument [opt "identifier" .text, opt "previousResultId" .text]),
  ("workspace/diagnostic",
    object (progress ++ partialResult ++ [opt "identifier" .text,
      req "previousResultIds" (.list (compound [req "uri" .uri, req "value" .text]))])),
  ("textDocument/signatureHelp",
    atPlace [opt "context" (compound [req "triggerKind" i32, opt "triggerCharacter" .text, req "isRetrigger" .flag,
      opt "activeSignatureHelp" signatureHelp])]),
  ("textDocument/codeAction",
    inDocument [req "range" range, req "context" (compound [req "diagnostics" (.list diagnosticShape),
      opt "only" (.list .text), opt "triggerKind" i32])]),
  ("codeAction/resolve", codeAction),
  ("textDocument/documentColor", inDocument []),
  ("textDocument/colorPresentation", inDocument [req "color" color, req "range" range]),
  ("textDocument/formatting",
    object (req "textDocument" documentId :: req "options" formattingOptions :: progress)),
  ("textDocument/rangeFormatting",
    object (req "textDocument" documentId :: req "range" range :: req "options" formattingOptions :: progress)),
  ("textDocument/onTypeFormatting",
    object (place ++ [req "ch" .text, req "options" formattingOptions])),
  ("textDocument/rename", atPlace [req "newName" .text]),
  ("textDocument/prepareRename", compound place),
  ("textDocument/linkedEditingRange", atPlace []),
  ("workspace/symbol", object (progress ++ partialResult ++ [req "query" .text])),
  ("workspaceSymbol/resolve",
    compound [req "name" .text, req "kind" i32, opt "tags" (.list i32), opt "containerName" .text,
      req "location" (oneOfList [location, compound [req "uri" .uri]]), opt "data" .any]),
  ("workspace/willCreateFiles", files [req "uri" .text]),
  ("workspace/willRenameFiles", files [req "oldUri" .text, req "newUri" .text]),
  ("workspace/willDeleteFiles", files [req "uri" .text]),
  ("workspace/executeCommand",
    object (req "command" .text :: ("arguments", .defaulted, .list .any) :: progress))]

def unheededNotifications : List String := [
  "textDocument/didChange", "textDocument/willSave", "workspace/didChangeWatchedFiles",
  "workspace/didCreateFiles", "workspace/didRenameFiles", "workspace/didDeleteFiles"]

inductive Method where
  | handshakeRequest
  | handshakeDone
  | shutdown
  | exit
  | cancel
  | opened
  | saved
  | closed
  | configured
  | foldersChanged
  | unserved (params : Shape)
  | unheeded
  | unknown

def Method.ofName (name : String) : Method :=
  match name with
  | "initialize" => .handshakeRequest
  | "initialized" => .handshakeDone
  | "shutdown" => .shutdown
  | "exit" => .exit
  | "$/cancelRequest" => .cancel
  | "textDocument/didOpen" => .opened
  | "textDocument/didSave" => .saved
  | "textDocument/didClose" => .closed
  | "workspace/didChangeConfiguration" => .configured
  | "workspace/didChangeWorkspaceFolders" => .foldersChanged
  | _ =>
      if unheededNotifications.contains name then .unheeded
      else match unservedRequests.lookup name with
        | some params => .unserved params
        | none => .unknown

end LintBridge.Protocol
