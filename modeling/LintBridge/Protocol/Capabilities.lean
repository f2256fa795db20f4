import LintBridge.Protocol.Types

namespace LintBridge.Protocol

open Shape

def flags (names : List String) : Shape := compound (names.map (opt · .flag))

def dynamic : Shape := flags ["dynamicRegistration"]

def linkable : Shape := flags ["dynamicRegistration", "linkSupport"]

def refreshable : Shape := flags ["refreshSupport"]

def valueSet (s : Shape) : Shape := compound [req "valueSet" (.list s)]

def tagSupport : String × Presence × Shape := dflt "tagSupport" (oneOfList [.flag, valueSet i32])

def properties : Shape := compound [req "properties" (.list .text)]

def symbolKinds : Shape := compound [opt "valueSet" (.list i32)]

def markupKinds : Shape := .list (.word ["plaintext", "markdown"])

def workspaceEditCapabilities : Shape :=
  compound [opt "documentChanges" .flag, opt "resourceOperations" (.list (.word ["create", "rename", "delete"])),
    opt "failureHandling" (.word ["abort", "transactional", "textOnlyTransactional", "undo"]),
    opt "normalizesLineEndings" .flag, opt "changeAnnotationSupport" (flags ["groupsOnLabel"])]

def workspaceCapabilities : Shape :=
  compound [opt "applyEdit" .flag, opt "workspaceEdit" workspaceEditCapabilities,
    opt "didChangeConfiguration" dynamic,
    opt "didChangeWatchedFiles" (flags ["dynamicRegistration", "relativePatternSupport"]),
    opt "symbol" (compound [opt "dynamicRegistration" .flag, opt "symbolKind" symbolKinds, tagSupport,
      opt "resolveSupport" properties]),
    opt "executeCommand" dynamic, opt "workspaceFolders" .flag, opt "configuration" .flag,
    opt "semanticTokens" refreshable, opt "codeLens" refreshable,
    opt "fileOperations" (flags ["dynamicRegistration", "didCreate", "willCreate", "didRename", "willRename",
      "didDelete", "willDelete"]),
    opt "inlineValue" refreshable, opt "inlayHint" refreshable, opt "diagnostic" refreshable]

def completionItemCapabilities : Shape :=
  compound [opt "snippetSupport" .flag, opt "commitCharactersSupport" .flag, opt "documentationFormat" markupKinds,
    opt "deprecatedSupport" .flag, opt "preselectSupport" .flag, tagSupport, opt "insertReplaceSupport" .flag,
    opt "resolveSupport" properties, opt "insertTextModeSupport" (valueSet i32), opt "labelDetailsSupport" .flag]

def completionCapabilities : Shape :=
  compound [opt "dynamicRegistration" .flag, opt "completionItem" completionItemCapabilities,
    opt "completionItemKind" (compound [opt "valueSet" (.list i32)]), opt "contextSupport" .flag,
    opt "insertTextMode" i32, opt "completionList" (compound [opt "itemDefaults" (.list .text)])]

def signatureCapabilities : Shape :=
  compound [opt "dynamicRegistration" .flag,
    opt "signatureInformation" (compound [opt "documentationFormat" markupKinds,
      opt "parameterInformation" (flags ["labelOffsetSupport"]), opt "activeParameterSupport" .flag]),
    opt "contextSupport" .flag]

def codeActionCapabilities : Shape :=
  compound [opt "dynamicRegistration" .flag,
    opt "codeActionLiteralSupport" (compound [req "codeActionKind" (valueSet .text)]),
    opt "isPreferredSupport" .flag, opt "disabledSupport" .flag, opt "dataSupport" .flag,
    opt "resolveSupport" properties, opt "honorsChangeAnnotations" .flag]

def foldingCapabilities : Shape :=
  compound [opt "dynamicRegistration" .flag, opt "rangeLimit" u32, opt "lineFoldingOnly" .flag,
    opt "foldingRangeKind" (compound [opt "valueSet" (.list (.word ["comment", "imports", "region"]))]),
    opt "foldingRange" (flags ["collapsedText"])]

def semanticTokensCapabilities : Shape :=
  compound [opt "dynamicRegistration" .flag,
    req "requests" (compound [opt "range" .flag, opt "full" (oneOfList [.flag, object [opt "delta" .flag]])]),
    req "tokenTypes" (.list .text), req "tokenModifiers" (.list .text),
    req "formats" (.list .text), opt "overlappingTokenSupport" .flag,
    opt "multilineTokenSupport" .flag, opt "serverCancelSupport" .flag, opt "augmentsSyntaxTokens" .flag]

def documentCapabilities : Shape :=
  compound [
    opt "synchronization" (flags ["dynamicRegistration", "willSave", "willSaveWaitUntil", "didSave"]),
    opt "completion" completionCapabilities,
    opt "hover" (compound [opt "dynamicRegistration" .flag, opt "contentFormat" markupKinds]),
    opt "signatureHelp" signatureCapabilities, opt "references" dynamic, opt "documentHighlight" dynamic,
    opt "documentSymbol" (compound [opt "dynamicRegistration" .flag, opt "symbolKind" symbolKinds,
      opt "hierarchicalDocumentSymbolSupport" .flag, tagSupport]),
    opt "formatting" dynamic, opt "rangeFormatting" dynamic, opt "onTypeFormatting" dynamic,
    opt "declaration" linkable, opt "definition" linkable, opt "typeDefinition" linkable,
    opt "implementation" linkable, opt "codeAction" codeActionCapabilities, opt "codeLens" dynamic,
    opt "documentLink" (flags ["dynamicRegistration", "tooltipSupport"]), opt "colorProvider" dynamic,
    opt "rename" (compound [opt "dynamicRegistration" .flag, opt "prepareSupport" .flag,
      opt "prepareSupportDefaultBehavior" i32, opt "honorsChangeAnnotations" .flag]),
    opt "publishDiagnostics" (compound [opt "relatedInformation" .flag, tagSupport, opt "versionSupport" .flag,
      opt "codeDescriptionSupport" .flag, opt "dataSupport" .flag]),
    opt "foldingRange" foldingCapabilities, opt "selectionRange" dynamic, opt "linkedEditingRange" dynamic,
    opt "callHierarchy" dynamic, opt "semanticTokens" semanticTokensCapabilities, opt "moniker" dynamic,
    opt "typeHierarchy" dynamic, opt "inlineValue" dynamic,
    opt "inlayHint" (compound [opt "dynamicRegistration" .flag, opt "resolveSupport" properties]),
    opt "diagnostic" (flags ["dynamicRegistration", "relatedDocumentSupport"])]

def windowCapabilities : Shape :=
  compound [opt "workDoneProgress" .flag,
    opt "showMessage" (compound [opt "messageActionItem" (flags ["additionalPropertiesSupport"])]),
    opt "showDocument" (compound [req "support" .flag])]

def generalCapabilities : Shape :=
  compound [opt "regularExpressions" (compound [req "engine" .text, opt "version" .text]),
    opt "markdown" (compound [req "parser" .text, opt "version" .text, opt "allowedTags" (.list .text)]),
    opt "staleRequestSupport" (compound [req "cancel" .flag, req "retryOnContentModified" (.list .text)]),
    opt "positionEncodings" (.list .text)]

def clientCapabilities : Shape :=
  compound [opt "workspace" workspaceCapabilities, opt "textDocument" documentCapabilities,
    opt "window" windowCapabilities, opt "general" generalCapabilities, opt "experimental" .any]

def handshake : Shape :=
  compound [opt "processId" u32, opt "rootPath" .text, dflt "rootUri" .uri, opt "initializationOptions" .any,
    req "capabilities" clientCapabilities, dflt "trace" (.word ["off", "messages", "verbose"]),
    opt "workspaceFolders" (.list workspaceFolder),
    opt "clientInfo" (compound [req "name" .text, opt "version" .text]), opt "locale" .text]

end LintBridge.Protocol
