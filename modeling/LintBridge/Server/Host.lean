import LintBridge.Server.Session
import LintBridge.Tool.Run

namespace LintBridge

structure Running where
  due : Nat
  validation : Nat
  output : Tool.Output
  deriving DecidableEq, Repr

structure Host where
  session : Session := {}
  config : Config := {}
  files : Files := .standard
  running : List Running := []
  /-- The time in nanoseconds. -/
  now : Nat := 0

namespace Host

def nanosPerMilli : Nat := 1000000

def launch? (h : Host) (e : Effect) : Option Running := do
  let (validation, path) ← e.run?
  let lasts ← Tool.duration? h.config h.files path
  return ⟨h.now + lasts.nanos, validation, Tool.run h.config h.files path⟩

def receive (h : Host) (e : Session.Event) : Host × List Effect :=
  let (s, effects) := h.session.step e
  ({ h with session := s, running := h.running ++ effects.filterMap h.launch? }, effects)

def passTo (h : Host) (t : Nat) : Host × List Effect :=
  let ms := t / nanosPerMilli - h.session.bridge.now
  { h with now := max h.now t }.receive (.elapsed ms)

def nextRun? (h : Host) : Option Running :=
  h.running.foldl (fun best r =>
    match best with
    | some b => if r.due < b.due then some r else best
    | none => some r) none

/-- When the next lookup of settings gives up, in nanoseconds. -/
def nextDeadline? (h : Host) : Option Nat :=
  (h.session.bridge.cache.waiters.map (·.deadline * nanosPerMilli)).min?

def finish (h : Host) (r : Running) : Host × List Effect :=
  let (s, effects) := h.session.complete r.validation r.output
  let h := { h with session := s, running := h.running.filter (·.validation ≠ r.validation) }
  let (h, more) := h.passTo r.due
  (h, effects ++ more)

def next? (h : Host) : Option (Host × List Effect) :=
  match h.nextRun?, h.nextDeadline? with
  | none, none => none
  | some r, none => some (h.finish r)
  | none, some t => some (h.passTo t)
  | some r, some t => some (if r.due ≤ t then h.finish r else h.passTo t)

def nextTime? (h : Host) : Option Nat := ((h.nextRun?.map (·.due)).toList ++ h.nextDeadline?.toList).min?

def advanceFuel (t : Nat) : Nat → Host → List Effect → Host × List Effect
  | 0, h, effects => (h, effects)
  | n + 1, h, effects =>
      if h.nextTime?.any (· ≤ t) then
        match h.next? with
        | some (h, more) => advanceFuel t n h (effects ++ more)
        | none => (h, effects)
      else (h, effects)

def advance (h : Host) (t : Nat) : Host × List Effect :=
  let (h, effects) := advanceFuel t (h.running.length + h.session.bridge.cache.waiters.length + 1) h []
  let (h, more) := h.passTo t
  (h, effects ++ more)

def awaitFuel (enough : List Effect → Bool) : Nat → Host → List Effect → Host × List Effect
  | 0, h, effects => (h, effects)
  | n + 1, h, effects =>
      if enough effects then (h, effects)
      else match h.next? with
        | none => (h, effects)
        | some (h, more) => awaitFuel enough n h (effects ++ more)

def waitUntil (h : Host) (enough : List Effect → Bool) (effects : List Effect) : Host × List Effect :=
  awaitFuel enough (h.running.length + h.session.bridge.cache.waiters.length + 1) h effects

end Host

end LintBridge
