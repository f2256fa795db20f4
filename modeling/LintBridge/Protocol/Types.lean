import LintBridge.Protocol.Shape

namespace LintBridge.Protocol

open Shape

def position : Shape := compound [req "line" u32, req "character" u32]

def range : Shape := compound [req "start" position, req "end" position]

def location : Shape := compound [req "uri" .uri, req "range" range]

def numberOrText : Shape := oneOfList [i32, .text]

def documentId : Shape := compound [req "uri" .uri]

def documentItem : Shape :=
  compound [req "uri" .uri, req "languageId" .text, req "version" i32, req "text" .text]

def workspaceFolder : Shape := compound [req "uri" .uri, req "name" .text]

def command : Shape := compound [req "title" .text, req "command" .text, opt "arguments" (.list .any)]

def textEdit : Shape := compound [req "range" range, req "newText" .text]

def markup : Shape := compound [req "kind" (.word ["plaintext", "markdown"]), req "value" .text]

def textOrMarkup : Shape := oneOfList [.text, markup]

def diagnosticShape : Shape :=
  compound [req "range" range, opt "severity" i32, opt "code" numberOrText,
    opt "codeDescription" (compound [req "href" .uri]), opt "source" .text, req "message" .text,
    opt "relatedInformation" (.list (compound [req "location" location, req "message" .text])),
    opt "tags" (.list i32), opt "data" .any]

def progress : List (String × Presence × Shape) := [opt "workDoneToken" numberOrText]

def partialResult : List (String × Presence × Shape) := [opt "partialResultToken" numberOrText]

def place : List (String × Presence × Shape) := [req "textDocument" documentId, req "position" position]

def fileOptions : Shape := compound [opt "overwrite" .flag, opt "ignoreIfExists" .flag]

def documentEdit : Shape :=
  compound [req "textDocument" (compound [req "uri" .uri, opt "version" i32]),
    req "edits" (.list (oneOfList [textEdit,
      object [req "range" range, req "newText" .text, req "annotationId" .text]]))]

def fileOperation : Shape :=
  oneOfList [
    .tagged "kind" "create" 0 (fieldsOf [req "uri" .uri, opt "options" fileOptions, opt "annotationId" .text]),
    .tagged "kind" "rename" 1 (fieldsOf [req "oldUri" .uri, req "newUri" .uri, opt "options" fileOptions,
      opt "annotationId" .text]),
    .tagged "kind" "delete" 2 (fieldsOf [req "uri" .uri,
      opt "options" (compound [opt "recursive" .flag, opt "ignoreIfNotExists" .flag, opt "annotationId" .text])])]

def workspaceEdit : Shape :=
  compound [dflt "changes" (.table true (.list textEdit)),
    opt "documentChanges" (oneOfList [.list documentEdit, .list (oneOfList [fileOperation, documentEdit])]),
    opt "changeAnnotations" (.table false
      (compound [req "label" .text, opt "needsConfirmation" .flag, opt "description" .text]))]

def formattingOptions : Shape :=
  .extensible (fieldsOf [req "tabSize" u32, req "insertSpaces" .flag, opt "trimTrailingWhitespace" .flag,
    opt "insertFinalNewline" .flag, opt "trimFinalNewlines" .flag]) (oneOfList [.flag, i32, .text])

end LintBridge.Protocol
