import LintBridge.Bridge
import LintBridge.Protocol.Method

namespace LintBridge

open Protocol (Method)

inductive Lifecycle where
  | fresh
  | ready
  | shutDown
  | exited
  deriving DecidableEq, Repr

/-- A message of the editor. A request has an identifier, a notification has none. -/
structure Incoming where
  method : String
  params : Option Json := none
  id : Option Json := none

structure Session where
  lifecycle : Lifecycle := .fresh
  bridge : Bridge := {}
  folders : Bool := false
  /-- How many requests to be told of configuration changes are unanswered. -/
  registrations : Nat := 0
  /-- How many notifications are still being handled. -/
  busy : Nat := 0

namespace Session

inductive Answer where
  | result (v : Json)
  | failure (code : Int)

inductive Event where
  | message (m : Incoming)
  /-- The editor answers a request for the settings of a document, given by its URI text and the
  place of the request among those that wait. -/
  | configuration (scope : String) (index : Nat) (a : Answer)
  | registration (index : Nat) (a : Answer)
  | finished (path : Bytes) (index : Nat) (o : Tool.Output)
  | elapsed (ms : Nat)

def capabilities (folders : Bool) : Json :=
  let sync := Json.obj [("openClose", .bool true), ("change", .ofNat 0),
    ("save", .obj [("includeText", .bool false)])]
  let workspace := Json.obj [("workspaceFolders",
    .obj [("supported", .bool true), ("changeNotifications", .bool true)])]
  .obj (("textDocumentSync", sync) :: if folders then [("workspace", workspace)] else [])

def handshakeResult (folders : Bool) : Json :=
  .obj [("capabilities", capabilities folders),
    ("serverInfo", .obj [("name", .str Config.serverName), ("version", .str Config.serverVersion)])]

def inform (text : String) : Effect := .send (.logMessage .info text)

def offers (ability : String) (params : Json) : Bool :=
  (do
    let abilities ← Protocol.handshake.field? "capabilities" params
    let workspace ← Protocol.clientCapabilities.field? "workspace" abilities
    let flag ← Protocol.workspaceCapabilities.field? ability workspace
    flag.bool?).getD false

def document? (shape document : Protocol.Shape) (params : Json) : Option Uri :=
  if shape.accepts params then do
    let doc ← shape.field? "textDocument" params
    let uri ← (document.field? "uri" doc).bind Json.str?
    (Uri.parse uri).toOption
  else none

def bridgeEvent? (m : Method) (params : Json) : Option Bridge.Event :=
  match m with
  | .opened => (document? Protocol.openParams Protocol.documentItem params).map .opened
  | .saved => (document? Protocol.saveParams Protocol.documentId params).map .saved
  | .closed => (document? Protocol.closeParams Protocol.documentId params).map .closed
  | .configured =>
      if Protocol.configurationParams.accepts params then
        (Protocol.configurationParams.field? "settings" params).map .configured
      else none
  | _ => none

/-- The answer of the editor as an answer to a request for settings; of a list the first element
counts. -/
def replyOf (u : Uri) : Answer → Settings.Reply
  | .result (.arr (v :: _)) => .ok v
  | .result (.arr []) => .error (.missing u)
  | .result v => .error (.request ("Parse error: invalid type: " ++ Settings.describe v ++ ", expected a sequence"))
  | .failure code => .error (.request (toString code))

def pass (s : Session) (e : Bridge.Event) : Session × List Effect :=
  let (b, effects) := s.bridge.step e
  ({ s with bridge := b }, effects)

def answer (id : Option Json) (f : Json → Response) : List Effect :=
  (id.map fun i => .respond (f i)).toList

def refuse (id : Option Json) (why : Refusal) : List Effect := answer id (.refused · why)

def untimely : Lifecycle → Refusal
  | .fresh => .notReady
  | _ => .invalidRequest

def shakeHands (s : Session) (m : Incoming) : Session × List Effect :=
  match m.id with
  | none => (s, [])
  | some id =>
      match m.params.filter Protocol.handshake.accepts with
      | none => (s, refuse m.id .invalidParams)
      | some params =>
          let pulls := offers "configuration" params
          let folders := offers "workspaceFolders" params
          let bridge := { s.bridge with cache := { s.bridge.cache with pulls := pulls } }
          ({ s with lifecycle := .ready, bridge := bridge, folders := folders },
            [Bridge.noteWith ["configuration", "workspace_folders"] .info .session "Client capabilities negotiated",
              inform "LSP server initializing",
              .respond (.result id (handshakeResult folders))])

/-- After the handshake the editor is asked to report configuration changes; the notification is
handled only when it has answered. -/
def confirm (s : Session) : Session × List Effect :=
  let greeting := inform "LSP server initialized"
  if s.bridge.cache.pulls then
    ({ s with registrations := s.registrations + 1, busy := s.busy + 1 },
      [greeting, .send .registerForChanges])
  else (s, [greeting])

def shutDown (s : Session) (m : Incoming) : Session × List Effect :=
  let s := { s with lifecycle := .shutDown }
  match m.id, m.params with
  | none, _ => (s, [])
  | some _, some _ => (s, refuse m.id .invalidParams)
  | some id, none => (s, [inform "LSP server shutting down", .respond (.result id .null)])

def notification (s : Session) (method : Method) (params : Json) : Session × List Effect :=
  match method with
  | .handshakeDone => if (Protocol.Shape.compound []).accepts params then s.confirm else (s, [])
  | .foldersChanged =>
      if Protocol.foldersParams.accepts params && s.folders then
        (s, [Bridge.note .info .session "Workspace folder change event received",
          Bridge.tell "Workspace folder change event received."])
      else (s, [])
  | method =>
      match bridgeEvent? method params with
      | some e => s.pass e
      | none => (s, [])

def receive (s : Session) (m : Incoming) : Session × List Effect :=
  match Method.ofName m.method with
  | .unknown =>
      if m.method.startsWith "$/" then (s, []) else (s, refuse m.id .unknownMethod)
  | .exit => ({ s with lifecycle := .exited }, [])
  | .cancel => (s, refuse m.id .invalidRequest)
  | .handshakeRequest =>
      if s.lifecycle = .fresh then s.shakeHands m else (s, refuse m.id .invalidRequest)
  | .shutdown =>
      if s.lifecycle = .ready then s.shutDown m else (s, refuse m.id (untimely s.lifecycle))
  | .unserved shape =>
      if s.lifecycle ≠ .ready then (s, refuse m.id (untimely s.lifecycle))
      else if m.params.any shape.accepts then (s, refuse m.id .unknownMethod)
      else (s, refuse m.id .invalidParams)
  | method =>
      if s.lifecycle ≠ .ready then (s, refuse m.id (untimely s.lifecycle))
      else match m.id, m.params with
        | some _, _ => (s, refuse m.id .invalidRequest)
        | none, some params => s.notification method params
        | none, none => (s, [])

def mute (lifecycle : Lifecycle) (effects : List Effect) : List Effect :=
  if lifecycle = .exited then effects.filter fun e => e.sent?.isNone else effects

def waitingPulls (s : Session) (scope : String) : List Settings.Pull :=
  s.bridge.cache.unanswered.filter (·.uri.text = scope)

/-- Takes back a request that was answered after the exit; nobody hears the answer. -/
def dropPull (s : Session) (p : Settings.Pull) : Session :=
  let cache := { s.bridge.cache with unanswered := s.bridge.cache.unanswered.filter (·.id ≠ p.id) }
  { s with bridge := { s.bridge with cache := cache } }

def complete (s : Session) (validation : Nat) (o : Tool.Output) : Session × List Effect :=
  let (s, effects) := s.pass (.finished validation o)
  (s, mute s.lifecycle effects)

def step (s : Session) (e : Event) : Session × List Effect :=
  match e with
  | .message m => if s.lifecycle = .exited then (s, []) else s.receive m
  | .configuration scope index a =>
      match (s.waitingPulls scope)[index]? with
      | none => (s, [])
      | some p =>
          if s.lifecycle = .exited then (s.dropPull p, [])
          else s.pass (.answered p.id (replyOf p.uri a))
  | .registration index _ =>
      if index < s.registrations then
        let s := { s with registrations := s.registrations - 1 }
        if s.lifecycle = .exited then (s, []) else ({ s with busy := s.busy - 1 }, [])
      else (s, [])
  | .finished path index o =>
      match (s.bridge.validator.waiting path)[index]? with
      | none => (s, [])
      | some r => s.complete r.validation o
  | .elapsed ms =>
      let (s, effects) := s.pass (.elapsed ms)
      (s, mute s.lifecycle effects)

end Session

end LintBridge
