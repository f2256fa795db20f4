import LintBridge.Server.Message
import LintBridge.Settings.Cache
import LintBridge.Validation.Validator

namespace LintBridge

open Settings (Cache Pull Reply)
open Validation (Outcome Report Run Validator)

structure Job where
  id : Nat
  uri : Uri
  settings : Option Settings := none
  outcome : Option Outcome := none
  deriving DecidableEq, Repr

structure Bridge where
  cache : Cache := {}
  validator : Validator := {}
  /-- The validations that have not ended, oldest first. -/
  jobs : List Job := []
  nextJob : Nat := 0
  /-- The time in milliseconds. -/
  now : Nat := 0
  /-- Warnings about answers, by request, that came when no lookup waited for them any more. -/
  unread : Table Nat String := []
  deriving DecidableEq, Repr

namespace Bridge

inductive Event where
  | opened (u : Uri)
  | saved (u : Uri)
  | closed (u : Uri)
  | configured (payload : Json)
  /-- The editor answers a request for settings; an unknown or answered request is no event. -/
  | answered (pull : Nat) (r : Reply)
  /-- The run of a validation ends; one that is not under way is no event. -/
  | finished (validation : Nat) (o : Tool.Output)
  | elapsed (ms : Nat)

def noteWith (details : List String) (level : Log.Level) (area : Log.Area) (message : String) : Effect :=
  .log ⟨level, area, message, details⟩

def note (level : Log.Level) (area : Log.Area) (message : String) : Effect := noteWith [] level area message

def tell (text : String) : Effect := .send (.logMessage .log text)

/-- What a completed validation tells the editor: the failure, the complaints of the tool and
the diagnostics, limited and gated by the settings. -/
def publication (u : Uri) (s : Settings) (r : Report) : List Effect :=
  let r := r.limit s.maxProblems
  let failure := match r.failure with
    | some f => [note .warn .session ("Analysis tool failed for " ++ u.text ++ ": " ++ f.message), tell f.message]
    | none => []
  let complaint := match r.complaint with
    | some c => [note .warn .session ("Analysis tool stderr for " ++ u.text ++ ": " ++ c), tell c]
    | none => []
  let dropped := if r.truncated = 0 then [] else
    [note .info .session ("Dropped " ++ toString r.truncated ++ " diagnostics for " ++ u.text ++
      " (maxNumberOfProblems = " ++ toString s.maxProblems ++ ")")]
  let published := if r.shouldPublish s then
      [note .info .session ("Publishing " ++ toString r.diagnostics.length ++ " diagnostics for " ++ u.text),
        .send (.publish u r.diagnostics)]
    else [note .debug .session ("No diagnostics for " ++ u.text ++ ", leaving client state unchanged")]
  failure ++ complaint ++ dropped ++ published

def conclusion (u : Uri) (s : Settings) : Outcome → List Effect
  | .completed r => publication u s r
  | .superseded => []
  | .closed => []
  | .unsupported => [note .debug .session ("Skipping validation for non-file URI " ++ u.text)]

def Job.conclusion? (t : Job) : Option (List Effect) := do
  return conclusion t.uri (← t.settings) (← t.outcome)

def settle (b : Bridge) : Bridge × List Effect :=
  ({ b with jobs := b.jobs.filter fun t => (Job.conclusion? t).isNone },
    (b.jobs.filterMap Job.conclusion?).flatten)

def setSettings (b : Bridge) (found : Nat × Settings) : Bridge :=
  { b with jobs := b.jobs.map fun t => if t.id = found.1 then { t with settings := some found.2 } else t }

def setOutcome (b : Bridge) (id : Nat) (o : Outcome) : Bridge :=
  { b with jobs := b.jobs.map fun t => if t.id = id then { t with outcome := some o } else t }

def warn (warning : Option String) : List Effect := (warning.map (note .warn .settings)).toList

def warning? (u : Uri) : Reply → Option String
  | .ok v => Settings.complaint? v
  | .error e => some ("Failed to pull settings for " ++ u.text ++ ", using defaults: " ++ e.message)

def spawn (b : Bridge) (u : Uri) : Bridge × List Effect :=
  let (cache, lookup) := b.cache.get b.now b.nextJob u
  let (validator, start) := b.validator.start b.nextJob u
  let job : Job := ⟨b.nextJob, u, lookup.found, start.outcome?⟩
  let asked := match lookup.issued with
    | some p => [note .debug .settings ("Pulling settings for " ++ p.uri.text), .send (.askConfiguration p.uri)]
    | none => []
  -- an answer that came too late for all who asked is read, and complained about, by the next lookup
  let request := b.cache.request? u
  let late := warn (request.bind b.unread.get?)
  let run := match start.run? with
    | some r => [noteWith ["command", "path"] .debug .tool "Running analysis tool", .run r.validation r.path]
    | none => []
  let b := { b with
    cache := cache
    validator := validator
    jobs := b.jobs ++ [job]
    nextJob := b.nextJob + 1
    unread := request.elim b.unread b.unread.erase }
  let (b, ended) := b.settle
  (b, asked ++ late ++ run ++ ended)

def spawnAll (b : Bridge) : List Uri → Bridge × List Effect
  | [] => (b, [])
  | u :: us =>
      let (b, first) := b.spawn u
      let (b, rest) := b.spawnAll us
      (b, first ++ rest)

def skipNotes (stdout : String) : List Effect :=
  (LintBridge.Report.skipped stdout).map fun (why, line) =>
    note .debug .report ("Skipping report line " ++
      (match why with
        | .tooFewFields => "with too few fields: "
        | .invalidLine => "with invalid line number: "
        | .noMessage => "without message: ") ++ Quoted.quoteText line)

def outcomeNotes (r : Run) (o : Tool.Output) : Outcome → List Effect
  | .completed _ => skipNotes o.stdout
  | .superseded => [note .debug .validation
      ("Discarding superseded validation #" ++ toString r.ticket ++ " for " ++ r.uri.text)]
  | .closed => [note .debug .validation
      ("Discarding validation #" ++ toString r.ticket ++ " for closed " ++ r.uri.text)]
  | .unsupported => []

def toolNotes (o : Tool.Output) : List Effect :=
  match o.failure with
  | some (.input _ _) => []
  | some (.spawn _) => []
  | some (.timeout _) => []
  | _ => [noteWith ["status", "stdout_bytes", "stderr_bytes"] .debug .tool "Analysis tool finished"]

def timeoutNotes (b : Bridge) (resolved : List (Nat × Settings)) : List Effect :=
  resolved.flatMap fun (id, _) =>
    (b.jobs.filter (·.id = id)).map fun t => note .warn .settings
      ("No settings received for " ++ t.uri.text ++ " within " ++
        (Duration.ofMillis b.cache.patience).text ++ ", using defaults")

def changeNotes (c : Cache) (payload : Json) : List Effect :=
  if c.pulls then
    [note .debug .settings ("Clearing " ++ toString c.stored.length ++ " cached document settings")]
  else
    let s := Settings.ofChange payload
    warn ((payload.get? Config.settingsSection).bind Settings.complaint?) ++
      [note .debug .settings ("Global settings replaced: Settings \x7b max_number_of_problems: " ++
        toString s.maxProblems ++ ", always_publish: " ++ toString s.alwaysPublish ++ " \x7d")]

def step (b : Bridge) : Event → Bridge × List Effect
  | .opened u =>
      let b := { b with cache := b.cache.openDocument u, validator := b.validator.track u }
      let (b, effects) := b.spawn u
      (b, tell ("Document opened: " ++ u.text) :: effects)
  | .saved u =>
      let saved := note .debug .session ("Document saved: " ++ u.text)
      if b.cache.isOpen u then
        let (b, effects) := b.spawn u
        (b, saved :: effects)
      else (b, [saved, note .debug .session ("Ignoring save for document that is not open: " ++ u.text)])
  | .closed u =>
      ({ b with cache := b.cache.closeDocument u, validator := b.validator.forget u },
        [note .debug .session ("Document closed: " ++ u.text)])
  | .configured payload =>
      let notes := note .info .session "Configuration changed" :: changeNotes b.cache payload ++
        [note .debug .session ("Revalidating " ++ toString b.cache.opened.length ++ " open documents")]
      let b := { b with cache := b.cache.change payload }
      let (b, effects) := b.spawnAll b.cache.opened
      (b, notes ++ effects)
  | .answered pull r =>
      match b.cache.unanswered.find? (·.id = pull) with
      | none => (b, [])
      | some p =>
          let (cache, resolved) := b.cache.answer p.id r
          let warning := warning? p.uri r
          let unread := if resolved.isEmpty then warning.elim b.unread (b.unread.set p.id) else b.unread
          let b := resolved.foldl setSettings { b with cache := cache, unread := unread }
          let (b, effects) := b.settle
          (b, (if resolved.isEmpty then [] else warn warning) ++ effects)
  | .finished validation o =>
      match b.validator.runs.find? (·.validation = validation) with
      | none => (b, [])
      | some r =>
          let (validator, outcome) := b.validator.finish r o
          let b := { b with validator := validator }.setOutcome r.validation outcome
          let (b, effects) := b.settle
          (b, toolNotes o ++ outcomeNotes r o outcome ++ effects)
  | .elapsed ms =>
      let now := b.now + ms
      let (cache, resolved) := b.cache.expire now
      let notes := b.timeoutNotes resolved
      let b := resolved.foldl setSettings { b with cache := cache, now := now }
      let (b, effects) := b.settle
      (b, notes ++ effects)

def steps (b : Bridge) : List Event → Bridge × List Effect
  | [] => (b, [])
  | e :: es =>
      let (b, first) := b.step e
      let (b, rest) := b.steps es
      (b, first ++ rest)

end Bridge

end LintBridge
