import LintBridge.Files
import LintBridge.Shell.Signal
import LintBridge.Shell.Syntax

namespace LintBridge.Shell

open Tool (SystemError)

structure Chunk where
  time : Nat
  writer : Nat
  text : Octets
  deriving DecidableEq, Repr

/-- Some chunks, given the newest first, in the order of their times. -/
def Chunk.inOrder (chunks : List Chunk) : List Chunk := chunks.reverse.mergeSort fun a b => a.time ≤ b.time

def Chunk.textOf (chunks : List Chunk) : Octets := (inOrder chunks).flatMap (·.text)

inductive Stream where
  | input (left whole : Octets)
  /-- What is left in a pipe, each part with when it comes in, and when the pipe is closed. A pipe that was not filled
  to its end has no such time yet. -/
  | pipe (left : List (Nat × Octets)) (closes : Option Nat)
  | zeros
  | directory
  | void
  | full
  | sink (chunks : List Chunk) (room : Nat)
  | file (place : List Bytes) (offset : Nat) (append : Bool)
  deriving DecidableEq, Repr

structure Deadline where
  time : Nat
  signal : Nat
  first : Nat
  deriving DecidableEq, Repr

/-- What all processes share. Time passes only when somebody waits. -/
structure World where
  files : Files
  streams : List (Nat × Stream)
  nextStream : Nat := 3
  nextProcess : Nat := 1001
  /-- The time in nanoseconds. -/
  now : Nat := 0
  /-- How many steps may still be taken before all this counts as endless. -/
  steps : Nat := 20000000
  /-- The children in the background that hold the output open, with when they let it go, if ever. -/
  holders : List (Nat × Option Nat) := []
  signals : List (Nat × Nat) := []
  deadlines : List Deadline := []

structure Job where
  process : Nat
  finish : Option Nat
  status : Nat
  signal : Option Nat := none
  number : Nat := 1
  parts : Nat := 1
  seen : Bool := false
  waited : Bool := false

/-- The number of a new child, which takes the place of one that was waited for, and the children that are left. -/
def Job.place (jobs : List Job) : Nat → Nat → Nat × List Job
  | 0, number => (number, jobs)
  | n + 1, number =>
      match jobs.find? (·.number = number) with
      | none => (number, jobs)
      | some j => if j.waited then (number, jobs.filter (·.number ≠ number)) else Job.place jobs n (number + 1)

def Job.newPlace (jobs : List Job) : Nat × List Job := Job.place jobs (jobs.length + 1) 1

def Job.hasEnded (j : Job) (now : Nat) : Bool := j.finish.any (· ≤ now)

structure State where
  world : World
  vars : List (Octets × Octets) := []
  exported : List Octets := []
  fixed : List Octets := []
  args : List Octets := []
  name : Octets := ['s', 'h']
  functions : List (Octets × Command) := []
  aliases : Aliases := []
  /-- The variables that the running function made its own, with what they were before and whether they were
  exported. -/
  locals : List (Octets × Option Octets × Bool) := []
  status : Nat := 0
  substituted : Nat := 0
  fds : List (Nat × Nat) := [(0, 0), (1, 1), (2, 2)]
  traps : List (Nat × Octets) := []
  pending : List Nat := []
  self : Nat := 1000
  main : Nat := 1000
  parent : Nat := 999
  ancestors : List Nat := []
  working : List Bytes := []
  mask : Nat := 18
  jobs : List Job := []
  lastJob : Option Nat := none
  options : List Char := []
  trapStatus : Option Nat := none
  tested : Bool := false
  loops : Nat := 0
  calls : Nat := 0
  line : Nat := 1
  /-- The number of the option argument that is read next, and how far the letters of the one before it have been
  read. -/
  optionIndex : Nat := 1
  optionOffset : Option Nat := none
  command : Octets := []
  here : Octets := ['/']
  writeFault : Option SystemError := none
  tracked : List (Octets × Octets × Octets) := []

inductive Stop where
  | exit (status : Nat)
  | killed (process signal : Nat)
  | breaks (levels : Nat)
  | continues (levels : Nat)
  | returns (status : Nat)
  | failed
  | endless
  /-- The pipe that is written has no more room. -/
  | full (stream : Nat)
  /-- The pipe that is read has nothing more so far. -/
  | starved (stream : Nat)
  deriving DecidableEq, Repr

abbrev Exec := ExceptT Stop (StateM State)

namespace Exec

def setStatus (n : Nat) : Exec Unit := modify fun s => { s with status := n }

def modifyWorld (f : World → World) : Exec Unit := modify fun s => { s with world := f s.world }

def tick : Exec Unit := do
  let s ← get
  if s.world.steps = 0 then throw .endless
  else set { s with world := { s.world with steps := s.world.steps - 1 } }

def hasOption (c : Char) : Exec Bool := do return (← get).options.contains c

def var? (name : Octets) : Exec (Option Octets) := do return (← get).vars.lookup name

def assign (name value : Octets) : List (Octets × Octets) → List (Octets × Octets)
  | [] => [(name, value)]
  | v :: vars => if v.1 = name then (name, value) :: vars else v :: assign name value vars

def putVar (name value : Octets) : Exec Unit :=
  modify fun s => { s with vars := assign name value s.vars }

def dropVar (name : Octets) : Exec Unit :=
  modify fun s => { s with vars := s.vars.filter (·.1 ≠ name), exported := s.exported.filter (· ≠ name) }

def markExported (name : Octets) : Exec Unit :=
  modify fun s => if s.exported.contains name then s else { s with exported := name :: s.exported }

def attempt {α : Type} (body : Exec α) : Exec (Except Stop α) := fun s =>
  match body s with
  | (result, s) => (.ok result, s)

def resume {α : Type} : Except Stop α → Exec α
  | .ok a => return a
  | .error stop => throw stop

def newStream (stream : Stream) : Exec Nat := do
  let id := (← get).world.nextStream
  modifyWorld fun w => { w with streams := (id, stream) :: w.streams, nextStream := id + 1 }
  return id

def setStream (id : Nat) (stream : Stream) : Exec Unit :=
  modifyWorld fun w => { w with streams := w.streams.map fun entry => if entry.1 = id then (id, stream) else entry }

def stream? (id : Nat) : Exec (Option Stream) := do return (← get).world.streams.lookup id

def dropStreams (p : Nat → Bool) : Exec Unit :=
  modifyWorld fun w => { w with streams := w.streams.filter fun entry => !p entry.1 }

def streamOf (fd : Nat) : Exec (Option (Nat × Stream)) := do
  let s ← get
  return do
    let id ← s.fds.lookup fd
    let stream ← s.world.streams.lookup id
    return (id, stream)

def failWrite (e : SystemError) : Exec Unit := modify fun s => { s with writeFault := some e }

def splice (content : Bytes) (offset : Nat) (text : Bytes) : Bytes :=
  if offset = content.length then content ++ text
  else
    let before := content.take offset
    before ++ List.replicate (offset - before.length) 0 ++ text ++ content.drop (offset + text.length)

def write (fd : Nat) (text : Octets) : Exec Unit := do
  if text.isEmpty then return
  match ← streamOf fd with
  | some (id, .sink chunks room) => do
      let s ← get
      let size := text.length
      if size ≤ room then setStream id (.sink (⟨s.world.now, s.self, text⟩ :: chunks) (room - size))
      else do
        setStream id (.sink (⟨s.world.now, s.self, text.take room⟩ :: chunks) 0)
        throw (.full id)
  | some (id, .file place offset append) => do
      let text := Octets.toBytes text
      modifyWorld fun w =>
        match w.files.get? place with
        | some (.file content runs) =>
            let offset := if append then content.length else offset
            { w with files := w.files.put place (.file (splice content offset text) runs) }
        | _ => w
      if !append then setStream id (.file place (offset + text.length) append)
  | some (_, .void) => return
  | some (_, .zeros) => return
  | some (_, .full) => failWrite (.code 28)
  | _ => failWrite (.code 9)

def complain (who text : Octets) : Exec Unit := write 2 (who ++ ": ".toList ++ text ++ ['\n'])

def say (text : Octets) : Exec Unit := do
  let s ← get
  let command := if s.command.isEmpty then [] else s.command ++ ": ".toList
  write 2 (s.name ++ ": ".toList ++ Octets.ofNat s.line ++ ": ".toList ++ command ++ text ++ ['\n'])

def fail {α : Type} (text : Octets) : Exec α := do
  say text
  throw .failed

def fatal {α : Type} (text : Octets) : Exec α := do
  say text
  throw (.exit 2)

/-- What a process writes after this time is not written. -/
def silence (process : Nat) : Exec Unit :=
  modifyWorld fun w => { w with streams := w.streams.map fun (id, stream) =>
    match stream with
    | .sink chunks room => (id, .sink (chunks.filter fun p => p.writer ≠ process || p.time ≤ w.now) room)
    | other => (id, other) }

/-- A signal reaches the process itself: it is kept for later if it is handled, and else it may end the process. -/
def receive (signal : Nat) : Exec Unit := do
  let s ← get
  match (if Signal.isHandled signal then s.traps.lookup signal else none) with
  | some [] => return
  | some _ => modify fun s => { s with pending := s.pending ++ [signal] }
  | none =>
      match Signal.action signal with
      | .ignored => return
      | .stops => throw .endless
      | .ends => throw (.killed s.self signal)

/-- Lets time pass up to a moment, unless it has passed already. Deadlines on the way are met: the running process and
those that wait for it are signalled. -/
def passTo : Nat → Nat → Exec Unit
  | 0, _ => return
  | n + 1, time => do
      let s ← get
      let met := s.world.deadlines.filter (·.time < time)
      match met.mergeSort fun a b => a.time ≤ b.time with
      | [] => modifyWorld fun w => { w with now := max w.now time }
      | d :: _ => do
          let waiting := s.ancestors.filter (d.first ≤ ·)
          modifyWorld fun w => { w with
            now := max w.now d.time, deadlines := w.deadlines.erase d,
            signals := w.signals ++ waiting.map (·, d.signal) }
          if d.first ≤ s.self then receive d.signal
          passTo n time

def waitUntil (time : Nat) : Exec Unit := do
  let w := (← get).world
  if w.now < time then passTo (w.deadlines.length + 1) time

def sleep (nanos : Nat) : Exec Unit := do waitUntil ((← get).world.now + nanos)

def readReady (fd : Nat) : Exec (Except SystemError (Octets × Bool)) := do
  match ← streamOf fd with
  | some (id, .input left whole) => do
      setStream id (.input [] whole)
      return .ok (left, true)
  | some (id, .pipe left closes) => do
      setStream id (.pipe [] closes)
      waitUntil ((left.map (·.1)).foldl max (closes.getD 0))
      return .ok (left.flatMap (·.2), closes.isSome)
  | some (_, .directory) => return .error (.code 21)
  | some (_, .void) => return .ok ([], true)
  | some (_, .zeros) => return .ok (List.replicate 65536 '\x00', false)
  | some (_, .full) => return .ok (List.replicate 65536 '\x00', false)
  | _ => return .error (.code 9)

def starve {α : Type} (fd : Nat) : Exec α := do
  match ← streamOf fd with
  | some (id, .pipe _ _) => throw (.starved id)
  | _ => throw .endless

/-- All that a stream still has to give; an error if it cannot be read. -/
def readAll (fd : Nat) : Exec (Except SystemError Octets) := do
  match ← readReady fd with
  | .error e => return .error e
  | .ok (text, true) => return .ok text
  | .ok (_, false) => starve fd

def takeParts : Nat → Nat → List (Nat × Octets) → Octets × Nat × List (Nat × Octets)
  | _, time, [] => ([], time, [])
  | 0, time, parts => ([], time, parts)
  | n, time, (t, text) :: parts =>
      let time := max time t
      let size := text.length
      if n < size then (text.take n, time, (t, text.drop n) :: parts)
      else
        let (more, time, parts) := takeParts (n - size) time parts
        (text ++ more, time, parts)

def readSome (fd : Nat) (most : Nat) : Exec (Except SystemError Octets) := do
  match ← streamOf fd with
  | some (id, .input left whole) => do
      setStream id (.input (left.drop most) whole)
      return .ok (left.take most)
  | some (id, .pipe parts closes) => do
      let (text, time, parts) := takeParts most 0 parts
      if text.length < most then
        match closes with
        | none => throw (.starved id)
        | some t => waitUntil t
      setStream id (.pipe parts closes)
      waitUntil time
      return .ok text
  | some (_, .zeros) => return .ok (List.replicate most '\x00')
  | some (_, .full) => return .ok (List.replicate most '\x00')
  | _ => readAll fd

def lineLength? : List (Nat × Octets) → Option Nat
  | [] => none
  | (_, text) :: parts =>
      match text.findIdx? (· = '\n') with
      | some i => some (i + 1)
      | none => (lineLength? parts).map (text.length + ·)

def readLine (fd : Nat) : Exec (Option (Octets × Bool)) := do
  match ← streamOf fd with
  | some (id, .input left whole) => do
      let line := left.takeWhile (· ≠ '\n')
      match left.drop line.length with
      | [] => do
          setStream id (.input [] whole)
          return if line.isEmpty then none else some (line, false)
      | _ :: left => do
          setStream id (.input left whole)
          return some (line, true)
  | some (id, .pipe parts closes) => do
      match lineLength? parts with
      | some n => do
          let (text, time, parts) := takeParts n 0 parts
          setStream id (.pipe parts closes)
          waitUntil time
          return some (text.dropLast, true)
      | none => do
          match closes with
          | none => throw (.starved id)
          | some t => do
              waitUntil t
              setStream id (.pipe [] closes)
              let text := parts.flatMap (·.2)
              return if text.isEmpty then none else some (text, false)
  | some (_, .zeros) => throw .endless
  | _ => return none

def streamOfNode : Node → Stream
  | .file content _ => .input (Octets.ofBytes content) (Octets.ofBytes content)
  | .program name => .input (Octets.ofString name) (Octets.ofString name)
  | .directory => .directory
  | .void => .void
  | .zeros => .zeros
  | .full => .full
  | .link _ => .void

def descriptor? (path : Octets) : Option Nat :=
  match String.ofList path with
  | "/dev/stdin" => some 0
  | "/dev/stdout" => some 1
  | "/dev/stderr" => some 2
  | _ => if "/dev/fd/".toList.isPrefixOf path then Octets.nat? (path.drop 8) else none

def openRead (path : Octets) : Exec (Except SystemError Nat) := do
  let s ← get
  match descriptor? path with
  | some fd =>
      match ← streamOf fd with
      | some (_, .input _ whole) => do return .ok (← newStream (.input whole whole))
      | some (id, _) => return .ok id
      | none => return .error .notFound
  | none =>
      if path == "/dev/tty".toList then return .error (.code 6)
      else match s.world.files.find s.working (Octets.toBytes path) with
        | .ok (_, node) => do return .ok (← newStream (streamOfNode node))
        | .error e => return .error e

/-- The stream for writing a path, emptied first unless it is added to. -/
def openWrite (path : Octets) (append : Bool) : Exec (Except SystemError Nat) := do
  let s ← get
  match descriptor? path with
  | some fd =>
      match s.fds.lookup fd with
      | some id => return .ok id
      | none => return .error .notFound
  | none =>
  if path == "/dev/tty".toList then return .error (.code 6)
  else match s.world.files.locate s.working (Octets.toBytes path) with
  | .error e => return .error e
  | .ok place =>
      let opened : Exec (Except SystemError Nat) := do return .ok (← newStream (.file place 0 append))
      match s.world.files.get? place with
      | some .directory => return .error (.code 21)
      | some .void => do return .ok (← newStream .void)
      | some .zeros => do return .ok (← newStream .void)
      | some .full => do return .ok (← newStream .full)
      | some (.program _) => return .error (.code 26)
      | some (.link _) => return .error .notFound
      | some (.file content runs) => do
          if !append && !content.isEmpty then
            modifyWorld fun w => { w with files := w.files.put place (.file [] runs) }
          opened
      | none =>
          if path.getLast? = some '/' then return .error (.code 21)
          else do
            modifyWorld fun w => { w with files := w.files.put place (.file [] false) }
            opened

def withFd {α : Type} (fd id : Nat) (body : Exec α) : Exec α := do
  let old := (← get).fds
  modify fun s => { s with fds := (fd, id) :: s.fds.filter (·.1 ≠ fd) }
  let result ← attempt body
  modify fun s => { s with fds := old }
  resume result

def readPath (path : Octets) : Exec (Except SystemError Octets) := do
  match ← openRead path with
  | .error e => return .error e
  | .ok id => withFd 0 id (readAll 0)

def receiveAll : Exec Unit := do
  let s ← get
  if s.world.signals.isEmpty then return
  let mine := s.world.signals.filter (·.1 = s.self)
  modifyWorld fun w => { w with signals := w.signals.filter (·.1 ≠ s.self) }
  for (_, signal) in mine do receive signal

/-- Runs a child in a copy of the shell: of what it does only the world is kept. Its status is returned, with the signal
that ended it if one did. -/
def child (fds : List (Nat × Nat)) (body : Exec Unit) : Exec (Nat × Option Nat) := do
  let s ← get
  let process := s.world.nextProcess
  let inner := { s with
    world := { s.world with nextProcess := process + 1 }, self := process, parent := s.self, fds := fds,
    ancestors := s.self :: s.ancestors,
    traps := s.traps.filter (·.2.isEmpty), pending := [], jobs := [], writeFault := none }
  let (result, after) := (ExceptT.run body).run inner
  set { s with world := after.world }
  receiveAll
  match result with
  | .ok _ => return (after.status % 256, none)
  | .error (.exit n) => return (n % 256, none)
  | .error (.returns n) => return (n % 256, none)
  | .error (.breaks _) => return (after.status, none)
  | .error (.continues _) => return (after.status, none)
  | .error .failed => return (2, none)
  | .error (.killed p signal) => if p = process then return (128 + signal, some signal) else throw (.killed p signal)
  | .error stop => throw stop

/-- Runs a child and waits for it. Meanwhile the shell sees others end. -/
def foreground (fds : List (Nat × Nat)) (body : Exec Unit) : Exec (Nat × Option Nat) := do
  if !(← get).jobs.isEmpty then modify fun s => { s with jobs := (Job.newPlace s.jobs).2 }
  let result ← child fds body
  if !(← get).jobs.isEmpty then
    modify fun s => { s with jobs := s.jobs.map fun j => if j.hasEnded s.world.now then { j with seen := true } else j }
  return result

/-- Runs with other descriptors, of which those that were touched are put back afterwards. Streams that nobody refers
to any more are forgotten. -/
def withFds {α : Type} (fds : List (Nat × Nat)) (touched : List Nat) (body : Exec α) : Exec α := do
  let s ← get
  let first := s.fds.map (·.2)
  set { s with fds := fds }
  let result ← attempt body
  modify fun after =>
    { after with fds := after.fds.filter (fun b => !touched.contains b.1) ++ s.fds.filter fun b => touched.contains b.1 }
  let last := (← get).fds.map (·.2)
  let opened := (fds.map (·.2)).filter fun id => !first.contains id && !last.contains id
  if !opened.isEmpty then dropStreams opened.contains
  resume result

def largestOutput : Nat := 33554432

def collect (fd : Nat) (body : List (Nat × Nat) → Exec (Nat × Option Nat)) : Exec (Octets × Nat × Option Nat) := do
  let id ← newStream (.sink [] largestOutput)
  let fds := (← get).fds
  let result ← attempt (body ((fd, id) :: fds.filter (·.1 ≠ fd)))
  match result with
  | .error (.full full) => throw (if full = id then .endless else .full full)
  | result => do
      let (status, signal) ← resume result
      let chunks := match ← stream? id with
        | some (.sink chunks _) => chunks
        | _ => []
      dropStreams (· = id)
      return (Chunk.textOf chunks, status, signal)

end Exec

end LintBridge.Shell
