import LintBridge.CommandLine
import LintBridge.Log.Filter
import LintBridge.Server.Host

namespace LintBridge

structure Environment where
  dataHome : Option Bytes := none
  home : Option Bytes := none
  logFilter : Option String := none

structure Program where
  host : Host
  filter : Log.Filter
  logPath : Bytes
  log : List Log.Entry := []
  /-- The requests to the editor that are not answered, oldest first, by their numbers. -/
  asked : List (Nat × Outgoing) := []
  nextRequest : Nat := 0

namespace Program

/-- What becomes of a call of the program. It may end after it has begun a log. -/
inductive Launch where
  | ends (n : CommandLine.Notice) (log : Option Bytes)
  | serves (p : Program)

def record (p : Program) (effects : List Effect) : Program :=
  { p with log := p.log ++ (effects.filterMap Effect.entry?).filter p.filter.allows }

def remember (p : Program) (effects : List Effect) : Program :=
  (effects.filterMap Effect.sent?).foldl (fun p m =>
    if m.isRequest then { p with asked := p.asked ++ [(p.nextRequest, m)], nextRequest := p.nextRequest + 1 } else p) p

def after (p : Program) (h : Host) (effects : List Effect) : Program × List Effect :=
  (({ p with host := h }.record effects).remember effects, effects)

def serve (c : Config) (env : Environment) (files : Files) : Launch :=
  match files.makeDirectories (Config.dataDir env.dataHome env.home) with
  | .error cause =>
      .ends { stderr := "Failed to create data directory: " ++ cause.text ++ "\n", status := 1 } none
  | .ok files =>
      let logPath := Config.logPath env.dataHome env.home
      match Log.Filter.ofSetting? env.logFilter with
      | none => .ends { stderr := "\nthe log filter is cut within a character\n", status := 101 } (some logPath)
      | some filter =>
          let p : Program := { host := { config := c, files := files }, filter := filter, logPath := logPath }
          .serves (p.record [
            Bridge.note .info .program ("Starting " ++ Config.serverName ++ " server"),
            Bridge.note .info .session ("Using analysis tool command: " ++ c.command)])

def launch (args : List String) (env : Environment) (files : Files) : Launch :=
  match CommandLine.read args with
  | .error stop => .ends stop.notice none
  | .ok c => serve c env files

def receive (p : Program) (m : Incoming) : Program × List Effect :=
  let (h, effects) := p.host.receive (.message m)
  p.after h effects

/-- The event that an answer to a request stands for. Requests about one document are told apart by their
order. -/
def answerEvent (p : Program) (number : Nat) (a : Session.Answer) : Outgoing → Option Session.Event
  | .askConfiguration u =>
      let earlier := p.asked.filter fun (k, m) => k < number && m == .askConfiguration u
      some (.configuration u.text earlier.length a)
  | .registerForChanges => some (.registration 0 a)
  | _ => none

def answer (p : Program) (number : Nat) (a : Session.Answer) : Program × List Effect :=
  match (p.asked.lookup number).bind (p.answerEvent number a) with
  | none => (p, [])
  | some e =>
      let p := { p with asked := p.asked.filter (·.1 ≠ number) }
      let (h, effects) := p.host.receive e
      p.after h effects

def waitUntil (p : Program) (enough : List Effect → Bool) (effects : List Effect) : Program × List Effect :=
  let (h, all) := p.host.waitUntil enough effects
  let (p, _) := p.after h (all.drop effects.length)
  (p, all)

/-- Lets all happen that is due by a time, in nanoseconds. -/
def advance (p : Program) (t : Nat) : Program × List Effect :=
  let (h, effects) := p.host.advance t
  p.after h effects

def documents (p : Program) (m : Incoming) : List Bytes :=
  let opened := p.host.session.bridge.cache.opened.filterMap Uri.filePath?
  let named := (m.params.bind fun v => (v.get? "textDocument").bind fun d => (d.get? "uri").bind Json.str?).bind
    fun text => (Uri.parse text).toOption.bind Uri.filePath?
  opened ++ named.toList

def isOver (p : Program) : Bool := p.host.session.lifecycle == .exited

def stop (p : Program) : Program :=
  p.record [Bridge.note .info .program (Config.serverName ++ " server stopped")]

end Program

end LintBridge
