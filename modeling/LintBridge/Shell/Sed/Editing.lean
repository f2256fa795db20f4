import LintBridge.Shell.Machine
import LintBridge.Shell.Sed

namespace LintBridge.Shell.Sed

structure Source where
  name : Octets
  lines : List (Octets × Bool)
  stop : Option Stop := none

inductive Addition where
  | text (t : Octets)
  | file (path : Octets)
  | fileLine (path : Octets)
  deriving DecidableEq, Repr

structure Setting where
  quiet : Bool
  separate : Bool
  delimiter : Char
  width : Nat

structure Editing where
  space : Array Char := #[]
  ended : Bool := true
  hold : Array Char := #[]
  holdEnded : Bool := true
  number : Nat := 0
  source : Source
  following : Option (Option Source) := none
  out : List Octets := []
  /-- The files that are written, each with whether its last line lacks the end; the output has no name. -/
  unended : List Octets := []
  /-- What is to be written to files, the last first. -/
  writes : List (Octets × Octets) := []
  additions : List Addition := []
  substituted : Bool := false
  ranges : List (Nat × Option Nat) := []
  lastPattern : Option (Regex × Regex.Mode) := none

inductive Spot where
  | command (pc : Nat)
  | finish (print : Bool)
  | newLine
  | again
  | replace (pc : Nat)
  | fetch (pc : Nat)
  | extend (pc : Nat)
  | quit (status : Nat)
  deriving DecidableEq, Repr

inductive Pause where
  | peek
  | starve
  | additions
  | writes
  | execute (command : Octets) (replaces print : Bool) (next : Nat)
  | noPrevious
  | ended (status : Nat)
  | tired
  deriving DecidableEq, Repr

namespace Editing

def emit (set : Setting) (e : Editing) (path text : Octets) : Editing :=
  let lacks := e.unended.contains path
  let text := if lacks then set.delimiter :: text else text
  let e := if lacks then { e with unended := e.unended.filter (· ≠ path) } else e
  if path.isEmpty then { e with out := text :: e.out } else { e with writes := (path, text) :: e.writes }

def emitLine (set : Setting) (e : Editing) (path : Octets) (text : Array Char) (ended : Bool) : Editing :=
  let e := e.emit set path (if ended then text.toList ++ [set.delimiter] else text.toList)
  if ended then e else { e with unended := path :: e.unended }

def print (set : Setting) (e : Editing) : Editing := e.emitLine set [] e.space e.ended

def emitFirst (set : Setting) (e : Editing) (path : Octets) : Editing :=
  match e.space.findIdx? (· = set.delimiter) with
  | some i => e.emitLine set path (e.space.extract 0 i) true
  | none => e.emitLine set path e.space e.ended

def isLast? (set : Setting) (e : Editing) : Option Bool :=
  if !e.source.lines.isEmpty || e.source.stop.isSome then some false
  else if set.separate then some true
  else e.following.map Option.isNone

/-- The expression to be used, if there is one. Only lines that end with newlines have several lines in them. -/
def use (set : Setting) (e : Editing) : Pattern → Option (Regex × Regex.Mode)
  | .last => e.lastPattern
  | .given r mode => some (r, { mode with multiline := mode.multiline && set.delimiter = '\n' })

/-- Whether an address is that of the line; it is not always known. -/
def fits (set : Setting) (e : Editing) : Address → Except Pause (Editing × Bool)
  | .line n => .ok (e, e.number = n)
  | .last =>
      match e.isLast? set with
      | some b => .ok (e, b)
      | none => .error .peek
  | .matching p =>
      match e.use set p with
      | some (r, mode) => .ok ({ e with lastPattern := some (r, mode) }, (r.laidOn e.space mode).succeeds)
      | none => .error .noPrevious
  | .step first every =>
      .ok (e, if every = 0 then e.number = first else first ≤ e.number && (e.number - first) % every = 0)

def openRange (e : Editing) (pc : Nat) (last : Option Nat) : Editing :=
  { e with ranges := (pc, last) :: e.ranges.filter (·.1 ≠ pc) }

def closeRange (e : Editing) (pc : Nat) : Editing := { e with ranges := e.ranges.filter (·.1 ≠ pc) }

def selects (set : Setting) (e : Editing) (pc : Nat) (c : Command) : Except Pause (Editing × Bool) :=
  match c.first, c.stop with
  | none, _ => .ok (e, true)
  | some a, none => e.fits set a
  | some a, some stop =>
      match e.ranges.lookup pc with
      | some last =>
          match last, stop with
          | some n, _ => .ok (if e.number ≥ n then e.closeRange pc else e, e.number ≤ n)
          | none, .address b => do
              let (e, hit) ← e.fits set b
              return (if hit then e.closeRange pc else e, true)
          | none, _ => .ok (e, true)
      | none => do
          let (e, hit) ← e.fits set a
          if !hit then return (e, false)
          let openUntil := fun (n : Nat) => if n ≤ e.number then e else e.openRange pc (some n)
          match stop with
          | .count n => return (openUntil (e.number + n), true)
          | .multiple n => return (if n = 0 then e else openUntil (e.number + n - e.number % n), true)
          | .address (.line n) => return (openUntil n, true)
          | .address .last =>
              match e.isLast? set with
              | some true => return (e, true)
              | some false => return (e.openRange pc none, true)
              | none => .error .peek
          | .address _ => return (e.openRange pc none, true)

def firstRanges (script : Array Command) : List (Nat × Option Nat) :=
  (List.range script.size).filterMap fun pc =>
    match script[pc]? with
    | some c => if c.first = some (.line 0) then some (pc, none) else none
    | none => none

/-- Goes on with another source. Separate texts are numbered separately. -/
def enter (set : Setting) (script : Array Command) (e : Editing) (s : Source) : Editing :=
  if set.separate then { e with source := s, following := none, number := 0, ranges := firstRanges script }
  else { e with source := s, following := none }

def takeLine (e : Editing) : Option (Octets × Editing) :=
  match e.source.lines with
  | [] => none
  | (line, ended) :: rest =>
      some (line, { e with source := { e.source with lines := rest }, ended := ended, number := e.number + 1,
                           substituted := false })

def addTexts (set : Setting) (e : Editing) : Option Editing :=
  let texts? := e.additions.mapM fun
    | .text t => some t
    | _ => none
  texts?.map fun texts => { texts.foldl (fun e t => e.emit set [] t) e with additions := [] }

end Editing

/-- A letter changed to the one or the other case. What is no letter of the alphabet has no case and is lost. -/
def shiftChar (upper : Option Bool) (c : Char) : Char :=
  match upper with
  | none => c
  | some up => if c.toNat ≥ 128 then '\xff' else if up then c.toUpper else c.toLower

def fill (text : Array Char) (m : Regex.Match) : Option Bool → Option Bool → List Piece → Array Char → Array Char
  | _, _, [], out => out
  | mode, one, .char c :: ps, out => fill text m mode none ps (out.push (shiftChar (one.or mode) c))
  | mode, one, .group n :: ps, out =>
      match m.group text n with
      | [] => fill text m mode one ps out
      | c :: cs =>
          fill text m mode none ps (cs.foldl (fun out c => out.push (shiftChar mode c)) (out.push (shiftChar (one.or mode) c)))
  | _, _, .shift mode :: ps, out => fill text m mode none ps out
  | mode, _, .shiftOne up :: ps, out => fill text m mode (some up) ps out

/-- Replaces matches from a place on. An empty match right after another one does not count. -/
def substituteFrom (laid : Regex.Laid) (s : Substitution) : Nat → Nat → Nat → Option Nat → Array Char → Bool → Array Char × Bool
  | 0, start, _, _, out, hit => (out ++ laid.text.extract start laid.text.size, hit)
  | n + 1, start, count, lastStop, out, hit =>
      let text := laid.text
      match laid.find? start with
      | none => (out ++ text.extract start text.size, hit)
      | some m =>
          let out := out ++ text.extract start m.start
          let isEmpty := m.start = m.stop
          if isEmpty && lastStop = some m.start then
            if m.start < text.size then
              substituteFrom laid s n (m.start + 1) count none (out ++ text.extract m.start (m.start + 1)) hit
            else (out, hit)
          else
            let count := count + 1
            let chosen := count = s.nth || (s.all && count > s.nth)
            let out := if chosen then fill text m none none s.target out else out ++ text.extract m.start m.stop
            let hit := hit || chosen
            if chosen && !s.all then (out ++ text.extract m.stop text.size, hit)
            else if isEmpty then
              if m.start < text.size then
                substituteFrom laid s n (m.start + 1) count none (out ++ text.extract m.start (m.start + 1)) hit
              else (out, hit)
            else substituteFrom laid s n m.stop count (some m.stop) out hit

def listChar (c : Char) : Octets :=
  match c with
  | '\\' => ['\\', '\\']
  | '\n' => ['\\', 'n']
  | '\t' => ['\\', 't']
  | '\x0d' => ['\\', 'r']
  | '\x07' => ['\\', 'a']
  | '\x08' => ['\\', 'b']
  | '\x0c' => ['\\', 'f']
  | '\x0b' => ['\\', 'v']
  | c => if ' ' ≤ c && c ≤ '~' then [c] else '\\' :: Octets.padLeft 3 '0' (Nat.toDigits 8 c.toNat)

/-- A line with nothing hidden, folded at a width unless that is zero. -/
def listLine (width : Nat) (text : Array Char) : Array Char :=
  let (out, _) := text.foldl (fun (out, column) c =>
    let shown := listChar c
    if width > 0 && column + shown.length > width - 1 then (out ++ ['\\', '\n'] ++ shown, shown.length)
    else (out ++ shown, column + shown.length)) ((#[] : Array Char), 0)
  out.push '$'

def labelAt (script : Array Command) (name : Octets) : Option Nat := script.findIdx? fun c => c.action = .label name

def afterGroup (script : Array Command) : Nat → Nat → Nat → Nat
  | 0, pc, _ => pc
  | n + 1, pc, depth =>
      match script[pc]? with
      | none => pc
      | some c =>
          match c.action with
          | .opens => afterGroup script n (pc + 1) (depth + 1)
          | .closes => if depth = 0 then pc + 1 else afterGroup script n (pc + 1) (depth - 1)
          | _ => afterGroup script n (pc + 1) depth

def goto (script : Array Command) (label : Octets) : Spot :=
  if label.isEmpty then .finish true
  else match labelAt script label with
    | some pc => .command pc
    | none => .finish true

def perform (set : Setting) (script : Array Command) (pc : Nat) (a : Action) (e : Editing) :
    Except (Editing × Pause) (Editing × Spot) :=
  let next := Spot.command (pc + 1)
  match a with
  | .substitute s =>
      match e.use set s.pattern with
      | none => .error (e, .noPrevious)
      | some (r, mode) =>
          let laid := r.laidOn e.space mode
          let e := { e with lastPattern := some (r, mode) }
          if !laid.succeeds then .ok (e, next)
          else
            let (text, hit) := substituteFrom laid s (e.space.size + 2) 0 0 none #[] false
            if !hit then .ok (e, next)
            else
              let e := { e with space := text, substituted := true }
              if s.run then .error (e, .execute e.space.toList true s.print (pc + 1))
              else
                let e := if s.print then e.print set else e
                match s.file with
                | some path => .ok (e.emitLine set path e.space e.ended, next)
                | none => .ok (e, next)
  | .mapChars source target =>
      let pairs := (source.zip target).reverse
      .ok ({ e with space := e.space.map fun c => (pairs.lookup c).getD c }, next)
  | .print => .ok (e.print set, next)
  | .printFirst => .ok (e.emitFirst set [], next)
  | .delete => .ok (e, .finish false)
  | .deleteFirst =>
      match e.space.findIdx? (· = set.delimiter) with
      | some i => .ok ({ e with space := e.space.extract (i + 1) e.space.size }, .again)
      | none => .ok (e, .finish false)
  | .next => .ok (e, .replace (pc + 1))
  | .nextAppend => .ok (e, .extend (pc + 1))
  | .quit status => .ok (if set.quiet then e else e.emitLine set [] e.space true, .quit status)
  | .quitSilently status => .ok ({ e with additions := [] }, .quit status)
  | .number => .ok (e.emit set [] (Octets.ofNat e.number ++ ['\n']), next)
  | .append text => .ok (if text.isEmpty then e else { e with additions := e.additions ++ [.text text] }, next)
  | .insert text => .ok (e.emit set [] text, next)
  | .change text =>
      let e := if (e.ranges.lookup pc).isNone && !text.isEmpty then e.emit set [] text else e
      .ok (e, .finish false)
  | .hold => .ok ({ e with hold := e.space, holdEnded := e.ended }, next)
  | .holdAppend => .ok ({ e with hold := e.hold.push set.delimiter ++ e.space, holdEnded := e.ended }, next)
  | .get => .ok ({ e with space := e.hold, ended := e.holdEnded }, next)
  | .getAppend => .ok ({ e with space := e.space.push set.delimiter ++ e.hold, ended := e.holdEnded }, next)
  | .exchange =>
      .ok ({ e with space := e.hold, ended := e.holdEnded, hold := e.space, holdEnded := e.ended }, next)
  | .branch label => .ok (e, goto script label)
  | .branchIf wanted label =>
      let taken := e.substituted == wanted
      .ok ({ e with substituted := false }, if taken then goto script label else next)
  | .label _ => .ok (e, next)
  | .opens => .ok (e, next)
  | .closes => .ok (e, next)
  | .list width => .ok (e.emitLine set [] (listLine (width.getD set.width) e.space) true, next)
  | .empty => .ok ({ e with space := #[] }, next)
  | .fileName => .ok (e.emit set [] (e.source.name ++ ['\n']), next)
  | .appendFile path => .ok ({ e with additions := e.additions ++ [.file path] }, next)
  | .appendFileLine path => .ok ({ e with additions := e.additions ++ [.fileLine path] }, next)
  | .writeFile path => .ok (e.emitLine set path e.space e.ended, next)
  | .writeFirst path => .ok (e.emitFirst set path, next)
  | .execute command =>
      if command.isEmpty then .error (e, .execute e.space.toList true false (pc + 1))
      else .error (e, .execute command false false (pc + 1))

/-- One step of the editor, unless it has to wait. A step that waits is taken again afterwards. -/
def step (set : Setting) (script : Array Command) (e : Editing) : Spot → Except (Editing × Pause) (Editing × Spot)
  | .command pc =>
      match script[pc]? with
      | none => .ok (e, .finish true)
      | some c =>
          match e.selects set pc c with
          | .error pause => .error (e, pause)
          | .ok (e, hit) =>
              if hit != c.negated then perform set script pc c.action e
              else if c.action = .opens then .ok (e, .command (afterGroup script script.size (pc + 1) 0))
              else .ok (e, .command (pc + 1))
  | .finish print => .ok (if print && !set.quiet then e.print set else e, .newLine)
  | .again =>
      match e.addTexts set with
      | none => .error (e, .additions)
      | some e => .ok (e, .command 0)
  | .newLine =>
      match e.addTexts set with
      | none => .error (e, .additions)
      | some e =>
          match e.takeLine with
          | some (line, e) => .ok ({ e with space := line.toArray }, .command 0)
          | none =>
              if e.source.stop.isSome then .error (e, .starve)
              else match e.following with
                | none => .error (e, .peek)
                | some none => .ok (e, .quit 0)
                | some (some s) => .ok (e.enter set script s, .newLine)
  | .replace pc =>
      match e.isLast? set with
      | none => .error (e, .peek)
      | some true => .ok (e, .finish true)
      | some false => .ok (if set.quiet then e else e.print set, .fetch pc)
  | .fetch pc =>
      match e.addTexts set with
      | none => .error (e, .additions)
      | some e =>
          match e.source.lines, e.following with
          | [], some (some s) => .ok (e.enter set script s, .fetch pc)
          | [], _ => .error (e, .starve)
          | _, _ =>
              match e.takeLine with
              | some (line, e) => .ok ({ e with space := line.toArray }, .command pc)
              | none => .ok (e, .finish false)
  | .extend pc =>
      match e.isLast? set with
      | none => .error (e, .peek)
      | some true => .ok (e, .finish true)
      | some false =>
          match e.addTexts set with
          | none => .error (e, .additions)
          | some e =>
              match e.source.lines, e.following with
              | [], some (some s) => .ok (e.enter set script s, .extend pc)
              | [], _ => .error (e, .starve)
              | _, _ =>
                  match e.takeLine with
                  | some (line, e) => .ok ({ e with space := e.space.push set.delimiter ++ line }, .command pc)
                  | none => .ok (e, .finish true)
  | .quit status =>
      match e.addTexts set with
      | none => .error (e, .additions)
      | some e => .error (e, .ended status)

def advance (set : Setting) (script : Array Command) : Nat → Editing → Spot → Editing × Spot × Pause
  | 0, e, spot => (e, spot, .tired)
  | n + 1, e, spot =>
      match step set script e spot with
      | .error (e, pause) => (e, spot, pause)
      | .ok (e, spot) => if e.writes.isEmpty then advance set script n e spot else (e, spot, .writes)

end LintBridge.Shell.Sed
