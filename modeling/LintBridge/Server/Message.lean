import LintBridge.Config
import LintBridge.Diagnostic
import LintBridge.Log.Entry
import LintBridge.Uri.Basic

namespace LintBridge

inductive MessageKind where
  | info
  | log
  deriving DecidableEq, Repr

def MessageKind.code : MessageKind → Nat
  | .info => 3
  | .log => 4

inductive Outgoing where
  | logMessage (kind : MessageKind) (text : String)
  | publish (u : Uri) (ds : List Diagnostic)
  | askConfiguration (u : Uri)
  | registerForChanges
  deriving DecidableEq, Repr

namespace Outgoing

def registrationId : String := Config.serverName ++ "/didChangeConfiguration"

def method : Outgoing → String
  | .logMessage _ _ => "window/logMessage"
  | .publish _ _ => "textDocument/publishDiagnostics"
  | .askConfiguration _ => "workspace/configuration"
  | .registerForChanges => "client/registerCapability"

def isRequest : Outgoing → Bool
  | .logMessage _ _ => false
  | .publish _ _ => false
  | .askConfiguration _ => true
  | .registerForChanges => true

def params : Outgoing → Json
  | .logMessage kind text => .obj [("type", .ofNat kind.code), ("message", .str text)]
  | .publish u ds => .obj [("uri", .str u.text), ("diagnostics", .arr (ds.map Diagnostic.toJson))]
  | .askConfiguration u =>
      .obj [("items", .arr [.obj [("scopeUri", .str u.text), ("section", .str Config.settingsSection)]])]
  | .registerForChanges =>
      .obj [("registrations", .arr [.obj [("id", .str registrationId),
        ("method", .str "workspace/didChangeConfiguration")]])]

end Outgoing

inductive Refusal where
  | notReady
  | invalidRequest
  | unknownMethod
  | invalidParams
  deriving DecidableEq, Repr

def Refusal.code : Refusal → Int
  | .notReady => -32002
  | .invalidRequest => -32600
  | .unknownMethod => -32601
  | .invalidParams => -32602

def Refusal.message : Refusal → String
  | .notReady => "Server not initialized"
  | .invalidRequest => "Invalid request"
  | .unknownMethod => "Method not found"
  | .invalidParams => "Invalid params"

inductive Response where
  | result (id : Json) (value : Json)
  | refused (id : Json) (why : Refusal)

inductive Effect where
  | send (m : Outgoing)
  | respond (r : Response)
  | run (validation : Nat) (path : Bytes)
  | log (e : Log.Entry)

namespace Effect

def sent? : Effect → Option Outgoing
  | .send m => some m
  | _ => none

def response? : Effect → Option Response
  | .respond r => some r
  | _ => none

def run? : Effect → Option (Nat × Bytes)
  | .run id path => some (id, path)
  | _ => none

def entry? : Effect → Option Log.Entry
  | .log e => some e
  | _ => none

end Effect

end LintBridge
