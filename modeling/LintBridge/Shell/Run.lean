import LintBridge.Shell.Builtin
import LintBridge.Shell.Field
import LintBridge.Shell.Program
import LintBridge.Shell.Reader

namespace LintBridge.Shell

open Exec
open Builtin (assignVar)
open Program (Launched Caller)

def standardVars (s : State) : List (Octets × Octets) :=
  [("IFS".toList, [' ', '\t', '\n']), ("OPTIND".toList, ['1']), ("PPID".toList, Octets.ofNat s.parent),
    ("PS1".toList, "# ".toList), ("PS2".toList, "> ".toList), ("PS4".toList, "+ ".toList)]

def shellPlaces : Octets := "/usr/local/sbin:/usr/local/bin:/usr/sbin:/usr/bin:/sbin:/bin".toList

def programPlaces : Octets := "/bin:/usr/bin".toList

def freshShell (s : State) (name : Octets) (args : List Octets) : State :=
  let given := (s.vars.filter fun v => s.exported.contains v.1 && (standardVars s).all (·.1 ≠ v.1)) ++ standardVars s
  let given := if given.any (·.1 = "PATH".toList) then given else given ++ [("PATH".toList, shellPlaces)]
  { world := s.world, vars := Exec.assign "PWD".toList s.here given,
    exported := (s.exported.filter (· ≠ "PWD".toList)) ++ ["PWD".toList], args := args,
    name := name, fds := s.fds, self := s.self, main := s.self, parent := s.parent, working := s.working, here := s.here,
    mask := s.mask, traps := s.traps.filter (·.2.isEmpty) }

def param? (name : Octets) : Exec (Option Octets) := do
  let s ← get
  match name with
  | ['?'] => return some (Octets.ofNat s.status)
  | ['$'] => return some (Octets.ofNat s.main)
  | ['#'] => return some (Octets.ofNat s.args.length)
  | ['!'] => return s.lastJob.map Octets.ofNat
  | ['-'] => return some (Builtin.optionLetters s)
  | ['@'] => return if s.args.isEmpty then none else some (([' '] : Octets).intercalate s.args)
  | ['*'] => return if s.args.isEmpty then none else some (([' '] : Octets).intercalate s.args)
  | c :: _ =>
      if c.isDigit then
        match Octets.digitsValue name with
        | 0 => return some s.name
        | n + 1 => return s.args[n]?
      else var? name
  | [] => return none

/-- How long a child in the background takes to begin, in nanoseconds. -/
def forkTime : Nat := 1000000

def sendSignal (signal process : Nat) : Exec Bool := do
  let s ← get
  if s.jobs.any (·.process = process) then do
    let now := s.world.now
    if signal ≠ 0 && s.jobs.any (fun j => j.process = process && j.finish.all (now < ·)) then do
      modify fun s => { s with jobs := s.jobs.map fun j =>
        if j.process = process then { j with finish := some now, status := 128 + signal, signal := some signal } else j }
      modifyWorld fun w => { w with holders := w.holders.filter (·.1 ≠ process) }
      silence process
    return true
  else if process = s.self then do
    receive signal
    return true
  else if process < s.self && process ≥ 1000 then do
    modifyWorld fun w => { w with signals := w.signals ++ [(process, signal)] }
    return true
  else return false

def mourn (signal : Option Nat) : Exec Unit := do
  match signal.bind Signal.obituary? with
  | some text => write 2 ((text ++ "\n").toList)
  | none => return ()

def jobOf (text : Octets) : Exec Job := do
  let jobs := (← get).jobs.reverse
  let found := match text with
    | ['%'] => jobs.head?
    | ['%', '%'] => jobs.head?
    | ['%', '+'] => jobs.head?
    | ['%', '-'] => jobs.tail.head?
    | '%' :: digits => (Octets.nat? digits).bind fun k => jobs.find? (·.number = k)
    | _ => none
  match found with
  | some j => return j
  | none => fail ("No such job: ".toList ++ text)

def Job.line (j : Job) (withProcess : Bool) (sign : Char) (now : Nat) : Octets :=
  let head := '[' :: Octets.ofNat j.number ++ [']', ' ', sign, ' '] ++ (if withProcess then Octets.ofNat j.process ++ [' '] else [])
  let state := if !j.hasEnded now then "Running".toList
    else match j.signal with
      | some signal => (Signal.description signal).toList
      | none => if j.status = 0 then "Done".toList else "Done(".toList ++ Octets.ofNat j.status ++ [')']
  Octets.padRight 33 ' ' (head ++ state) ++ (List.replicate (j.parts - 1) " | ".toList).flatten ++ ['\n']

/-- Shows the children in the background, the newest first. Those that have ended are forgotten. -/
def showJobs (args : List Octets) : Exec Nat := do
  let (given, args) ← Builtin.options "lp" args
  let all := (← get).jobs.reverse
  let shown ← (if args.isEmpty then return all else args.mapM jobOf)
  for j in shown do
    let s ← get
    let current := s.jobs.reverse.map (·.number)
    let sign := if current.head? = some j.number then '+' else if current.tail.head? = some j.number then '-' else ' '
    if given.any (·.1 = 'p') then write 1 (Octets.ofNat j.process ++ ['\n'])
    else write 1 (j.line (given.any (·.1 = 'l')) sign s.world.now)
    if j.hasEnded s.world.now then
      modify fun s => { s with jobs := s.jobs.filter (·.number ≠ j.number) }
  return 0

def resumeJob (args : List Octets) : Exec Nat := do
  match args with
  | [] => if (← get).jobs.isEmpty then fail "No current job".toList else fail "job not created under job control".toList
  | arg :: _ => do
      let _ ← jobOf arg
      fail "job not created under job control".toList

/-- Waits for one child and returns its status. If a signal ended it, that is said. -/
def waitForJob (j : Job) : Exec Nat := do
  match j.finish with
  | none => throw .endless
  | some finish => do
      waitUntil finish
      if !j.seen then mourn j.signal
      modify fun s => { s with jobs := s.jobs.map fun k =>
        if k.process = j.process then { k with seen := true, waited := true } else k }
      return j.status

def waitFor (args : List Octets) : Exec Nat := do
  match args with
  | [] => do
      let jobs := (← get).jobs
      if jobs.any (·.finish.isNone) then throw .endless
      waitUntil ((jobs.filterMap (·.finish)).foldl max (← get).world.now)
      modify fun s => { s with jobs := s.jobs.map fun j => { j with seen := true, waited := true } }
      return 0
  | args => do
      let mut status := 127
      for arg in args do
        if arg.head? = some '%' then status := ← waitForJob (← jobOf arg)
        else
          let process ← Builtin.number arg
          match (← get).jobs.find? (·.process = process) with
          | some j => status := ← waitForJob j
          | none => pure ()
      return status

def whileTested {α : Type} (body : Exec α) : Exec α := do
  let old := (← get).tested
  modify fun s => { s with tested := true }
  let result ← attempt body
  modify fun s => { s with tested := old }
  resume result

def checkError : Exec Unit := do
  let s ← get
  if s.status ≠ 0 && !s.tested && s.options.contains 'e' then throw (.exit s.status)

def evalArith (text : Octets) : Exec Octets := do
  let s ← get
  match (do Arith.eval (← Arith.parse text) ⟨s.vars, s.fixed⟩) with
  | .ok (v, scope) => do
      set { s with vars := scope.vars }
      return Octets.ofInt v
  | .error .overflow => throw (.killed s.self 8)
  | .error e => fatal (e.message text).toList

def openFault (creates : Bool) (path : Octets) (e : Tool.SystemError) : Octets :=
  let reason := if e = .notFound then (if creates then "Directory nonexistent" else "No such file") else e.plainText
  (if creates then "cannot create " else "cannot open ").toList ++ path ++ ": ".toList ++ reason.toList

def isAssignment : Word → Bool
  | .text cs false :: _ =>
      let name := cs.takeWhile Octets.isName2
      Octets.isName name && (cs.drop name.length).head? = some '='
  | _ => false

def pipeSizes : List Nat := [65536, 1048576, 16777216]

def deepestCall : Nat := 1000

def interpreter? (content : Octets) : Option (List Octets) :=
  match content with
  | '#' :: '!' :: cs =>
      let line := Octets.trimBlanks (cs.takeWhile (· ≠ '\n'))
      let program := line.takeWhile fun c => c ≠ ' ' && c ≠ '\t'
      let arg := Octets.trimBlanks (line.drop program.length)
      if program.isEmpty then none else some (if arg.isEmpty then [program] else [program, arg])
  | _ => none

mutual

def expand : Nat → Word → Exec (List Glyph)
  | 0, _ => throw .endless
  | _, [] => return []
  | n + 1, p :: ps => do
      let first ← expandPiece n p
      if ps.isEmpty then return first else return first ++ (← expand n ps)

def expandPiece : Nat → Piece → Exec (List Glyph)
  | 0, _ => throw .endless
  | n + 1, p => do
      match p with
      | .text cs quoted =>
          return if quoted then (if cs.isEmpty then [.emptyQuotes] else Glyph.text .quoted cs) else Glyph.text .written cs
      | .home [] => do
          match ← var? "HOME".toList with
          | some home => return Glyph.text .quoted home
          | none => return Glyph.text .quoted ['~']
      | .home user => return Glyph.text .quoted (if user == "root".toList then "/root".toList else '~' :: user)
      | .bad => fatal "Bad substitution".toList
      | .param ['@'] .plain quoted => do
          let args := (← get).args
          return ([Glyph.border] : List Glyph).intercalate (args.map (Glyph.ofValue quoted))
      | .param ['*'] .plain false => do
          let args := (← get).args
          return ([Glyph.border] : List Glyph).intercalate (args.map (Glyph.ofValue false))
      | .param ['*'] .plain true => do
          let separators := (← var? "IFS".toList).getD [' ']
          return Glyph.ofValue true ((separators.take 1).intercalate (← get).args)
      | .param name op quoted => do
          let value ← param? name
          match op with
          | .plain => do
              if value.isNone then requireSet name
              return Glyph.ofValue quoted (value.getD [])
          | .fallback kind emptyCounts word => do
              let present := match value with
                | some v => !(emptyCounts && v.isEmpty)
                | none => false
              match kind with
              | .useDefault =>
                  if present then return Glyph.ofValue quoted (value.getD [])
                  else expandInner n quoted word
              | .assignDefault =>
                  if present then return Glyph.ofValue quoted (value.getD [])
                  else do
                    let v := Glyph.flat (← expand n word)
                    if !Octets.isName name then fatal (name ++ ": bad variable name".toList)
                    assignVar name v
                    return Glyph.ofValue quoted v
              | .complain =>
                  if present then return Glyph.ofValue quoted (value.getD [])
                  else do
                    let text := Glyph.flat (← expand n word)
                    let text := if text.isEmpty then
                        ("parameter not set" ++ if emptyCounts then " or null" else "").toList
                      else text
                    fatal (name ++ ": ".toList ++ text)
              | .useAlternative =>
                  if present then expandInner n quoted word
                  else return if quoted then [.emptyQuotes] else []
          | .trim fromEnd longest word => do
              if value.isNone then requireSet name
              let pattern := Pattern.read (Glyph.marked (← expand n word))
              let v := value.getD []
              return Glyph.ofValue quoted
                (if fromEnd then pattern.trimEnd longest v else pattern.trimStart longest v)
      | .length name quoted => do
          let value ← param? name
          let s ← get
          if value.isNone then requireSet name
          let length := if name == ['@'] || name == ['*'] then s.args.length else (value.getD []).length
          return Glyph.ofValue quoted (Octets.ofNat length)
      | .command body quoted => do
          let (text, status, _) ← collect 1 fun fds => foreground fds (runToEnd n do
            modify fun s => { s with tested := false }
            runList n body)
          modify fun s => { s with substituted := status }
          let text := if text.contains '\x00' then text.filter (· ≠ '\x00') else text
          return Glyph.ofValue quoted ((text.reverse.dropWhile (· = '\n')).reverse)
      | .arith word quoted => do
          let text := Glyph.flat (← expand n word)
          return Glyph.ofValue quoted (← evalArith text)

def requireSet (name : Octets) : Exec Unit := do
  if (← hasOption 'u') && name != ['@'] && name != ['*'] then fatal (name ++ ": parameter not set".toList)

/-- The word inside an expansion; in quotes it is quoted too. -/
def expandInner : Nat → Bool → Word → Exec (List Glyph)
  | 0, _, _ => throw .endless
  | n + 1, quoted, word => do
      let glyphs ← expand n word
      if quoted then
        return if glyphs.isEmpty then [.emptyQuotes] else glyphs.map fun
          | .char c _ => .char c .quoted
          | g => g
      else return glyphs.map fun
        | .char c .written => .char c .expanded
        | g => g

def expandText : Nat → Word → Exec Octets
  | 0, _ => throw .endless
  | n + 1, w => do
      match w with
      | [] => return []
      | [.text cs _] => return cs
      | w => return Glyph.flat (← expand n w)

def expandWord : Nat → Word → Exec (List Octets)
  | 0, _ => throw .endless
  | n + 1, w => do
      match w with
      | [.text cs true] => return [cs]
      | w => do
          let glyphs ← expand n w
          let separators := (← var? "IFS".toList).getD [' ', '\t', '\n']
          let s ← get
          return (Glyph.split separators glyphs).flatMap fun field =>
            if s.options.contains 'f' then [field.map (·.1)] else glob s.world.files s.working field

def expandWords : Nat → List Word → Exec (List Octets)
  | 0, _ => throw .endless
  | _, [] => return []
  | n + 1, w :: ws => do
      let fields ← expandWord n w
      return fields ++ (← expandWords n ws)

def expandAssigning : Nat → List Word → Exec (List Octets)
  | 0, _ => throw .endless
  | _, [] => return []
  | n + 1, w :: ws => do
      let fields ← (if isAssignment w then do return [← expandText n w] else expandWord n w)
      return fields ++ (← expandAssigning n ws)

def expandCommand : Nat → List Word → Exec (List Octets)
  | 0, _ => throw .endless
  | _, [] => return []
  | n + 1, w :: ws => do
      match ← expandWord n w with
      | [] => expandCommand n ws
      | name :: fields => do
          let more ← (if Builtin.assigners.contains (String.ofList name) then expandAssigning n ws else expandWords n ws)
          return name :: fields ++ more

def redirect : Nat → List Redirect → List (Nat × Nat) → Exec (Option (List (Nat × Nat)))
  | 0, _, _ => throw .endless
  | _, [], fds => return some fds
  | n + 1, r :: rs, fds => do
      let bind := fun (fd id : Nat) => (fd, id) :: fds.filter (·.1 ≠ fd)
      match r with
      | .here fd body => do
          let text ← expandText n body
          let id ← newStream (.pipe [(0, text)] (some 0))
          redirect n rs (bind fd id)
      | .file fd mode target => do
          let path ← expandText n target
          let opened := fun (creates : Bool) (result : Except Tool.SystemError Nat) => do
            match result with
            | .ok id => redirect n rs (bind fd id)
            | .error e => do
                say (openFault creates path e)
                return none
          let old := (← get).fds
          modify fun s => { s with fds := fds }
          let result ← (match mode with
            | .read => openRead path
            | .readWrite => do
                match ← openWrite path true with
                | .ok _ => openRead path
                | .error e => return .error e
            | .write => do
                let s ← get
                match s.world.files.find s.working (Octets.toBytes path) with
                | .ok (_, .file _ _) => if s.options.contains 'C' then return .error (.code 17) else openWrite path false
                | _ => openWrite path false
            | .overwrite => openWrite path false
            | .append => openWrite path true
            | .duplicate =>
                match Octets.nat? path with
                | some k => return ((fds.lookup k).map Except.ok).getD (.error (.code 9))
                | none => return .error (.code 9))
          modify fun s => { s with fds := old }
          match mode with
          | .duplicate =>
              if path == ['-'] then redirect n rs (fds.filter (·.1 ≠ fd))
              else if (Octets.nat? path).isNone then fatal "Syntax error: Bad fd number".toList
              else match result with
                | .ok id => redirect n rs (bind fd id)
                | .error e => do
                    say (path ++ ": ".toList ++ e.plainText.toList)
                    return none
          | .read => opened false result
          | .readWrite => opened true result
          | _ => opened true result

def redirected : Nat → List Redirect → Exec Unit → Exec Unit
  | 0, _, _ => throw .endless
  | n + 1, rs, body => do
      if rs.isEmpty then body
      else match ← redirect n rs (← get).fds with
        | some fds => withFds fds (rs.map fun
            | .file fd _ _ => fd
            | .here fd _ => fd) body
        | none => setStatus 2

/-- Runs the lines of a script; true if there were any. -/
def runLines : Nat → Reader.Cursor → Bool → Exec Bool
  | 0, _, _ => throw .endless
  | n + 1, cursor, ran => do
      let s ← get
      match Reader.next { cursor with aliases := s.aliases } with
      | .error (line, f) => do
          modify fun s => { s with line := line }
          fatal ("Syntax error: " ++ f.message).toList
      | .ok none => return ran
      | .ok (some (commands, cursor)) => do
          if commands.isEmpty || s.options.contains 'n' then runLines n cursor ran
          else do
            runList n commands
            runLines n cursor true

def runText : Nat → Octets → Exec Unit
  | 0, _ => throw .endless
  | n + 1, text => do
      let ran ← runLines n { rest := text } false
      if !ran then setStatus 0

def runToEnd : Nat → Exec Unit → Exec Unit
  | 0, _ => throw .endless
  | n + 1, body => do
      let finish := fun (status : Nat) => do
        match (← get).traps.lookup 0 with
        | some (c :: cs) => do
            modify fun s => { s with status := status, trapStatus := some status, traps := s.traps.filter (·.1 ≠ 0) }
            runText n (c :: cs)
            throw (Stop.exit status)
        | _ => throw (Stop.exit status)
      match ← attempt body with
      | .ok _ => finish (← get).status
      | .error (.exit status) => finish status
      | .error (.returns status) => finish status
      | .error (.breaks _) => finish (← get).status
      | .error (.continues _) => finish (← get).status
      | .error .failed => finish 2
      | .error stop => throw stop

def runShell : Nat → Octets → Octets → List Octets → List Char → Exec Unit
  | 0, _, _, _, _ => throw .endless
  | n + 1, text, name, args, options => do
      modify fun s => { freshShell s name args with options := options }
      runToEnd n (runText n text)

/-- Commands one after the other. Every nested step and every turn of a loop uses up fuel, and a script without any
left counts as one that never ends. -/
def runList : Nat → List Command → Exec Unit
  | 0, _ => throw .endless
  | _, [] => return ()
  | n + 1, c :: cs => do
      run n c
      if !cs.isEmpty then runList n cs

def runTraps : Nat → Exec Unit
  | 0 => throw .endless
  | n + 1 => do
      let s ← get
      match s.pending with
      | [] => return ()
      | signal :: rest => do
          set { s with pending := rest }
          match s.traps.lookup signal with
          | some (c :: cs) => do
              modify fun s => { s with trapStatus := some s.status }
              runText n (c :: cs)
              modify fun after => { after with status := s.status, trapStatus := s.trapStatus }
          | _ => return ()
          runTraps n

/-- Runs a command, and what came in meanwhile; a script that is only checked runs nothing. -/
def run : Nat → Command → Exec Unit
  | 0, _ => throw .endless
  | n + 1, c => do
      tick
      if ← hasOption 'n' then return ()
      runCommand n c
      if !(← get).pending.isEmpty then runTraps n

def runCommand : Nat → Command → Exec Unit
  | 0, _ => throw .endless
  | n + 1, c => do
      match c with
      | .simple line assigns words redirects => do
          modify fun s => { s with line := line, substituted := 0 }
          runSimple n assigns words redirects
          checkError
      | .pipeline negated parts => do
          if negated then
            whileTested (runPipeline n parts)
            let status := (← get).status
            setStatus (if status = 0 then 1 else 0)
          else do
            runPipeline n parts
            checkError
      | .and a b => do
          whileTested (run n a)
          if (← get).status = 0 then run n b
      | .or a b => do
          whileTested (run n a)
          if (← get).status ≠ 0 then run n b
      | .background c => runBackground n c
      | .subshell body redirects => do
          redirected n redirects do
            let (status, signal) ← foreground (← get).fds (runToEnd n (runList n body))
            mourn signal
            setStatus status
          checkError
      | .group body redirects => redirected n redirects (runList n body)
      | .conditional test body other redirects =>
          redirected n redirects do
            whileTested (runList n test)
            if (← get).status = 0 then runList n body
            else do
              setStatus 0
              runList n other
      | .loop negated test body redirects =>
          redirected n redirects (inLoop n (runLoop n negated test body 0))
      | .forEach line name words body redirects =>
          redirected n redirects do
            modify fun s => { s with line := line }
            let values ← (match words with
              | some ws => expandWords n ws
              | none => do return (← get).args)
            setStatus 0
            inLoop n (runFor n name values body)
      | .select word cases redirects =>
          redirected n redirects do
            let text ← expandText n word
            setStatus 0
            runCases n text cases
      | .define name body => do
          modify fun s => { s with functions := (name, body) :: s.functions.filter (·.1 ≠ name) }
          setStatus 0

def inLoop : Nat → Exec Unit → Exec Unit
  | 0, _ => throw .endless
  | _ + 1, body => do
      modify fun s => { s with loops := s.loops + 1 }
      body
      modify fun s => { s with loops := s.loops - 1 }

/-- One turn of a loop; true if the loop is left. -/
def runBody : Nat → List Command → Exec Bool
  | 0, _ => throw .endless
  | n + 1, body => do
      let leave := fun (stop : Stop) => do
        modify fun s => { s with loops := s.loops - 1 }
        throw stop
      match ← attempt (runList n body) with
      | .ok _ => return false
      | .error (.breaks (k + 2)) => leave (.breaks (k + 1))
      | .error (.breaks _) => return true
      | .error (.continues (k + 2)) => leave (.continues (k + 1))
      | .error (.continues _) => return false
      | .error stop => throw stop

def runLoop : Nat → Bool → List Command → List Command → Nat → Exec Unit
  | 0, _, _, _, _ => throw .endless
  | n + 1, negated, test, body, status => do
      tick
      if ← runBody n [.group test []] |> whileTested then setStatus status
      else if ((← get).status = 0) != negated then do
        if ← runBody n body then setStatus 0
        else runLoop n negated test body (← get).status
      else setStatus status

def runFor : Nat → Octets → List Octets → List Command → Exec Unit
  | 0, _, _, _ => throw .endless
  | _, _, [], _ => return ()
  | n + 1, name, value :: values, body => do
      tick
      assignVar name value
      if ← runBody n body then setStatus 0 else runFor n name values body

def runCases : Nat → Octets → List (List Word × List Command) → Exec Unit
  | 0, _, _ => throw .endless
  | _, _, [] => return ()
  | n + 1, text, (patterns, body) :: cases => do
      if ← matchAny n text patterns then runList n body else runCases n text cases

def matchAny : Nat → Octets → List Word → Exec Bool
  | 0, _, _ => throw .endless
  | _, _, [] => return false
  | n + 1, text, w :: ws => do
      let pattern := Pattern.read (Glyph.marked (← expand n w))
      if Pattern.accepts pattern text then return true else matchAny n text ws

/-- Runs a command in the background: at once, but with the time put back to where it began. -/
def runBackground : Nat → Command → Exec Unit
  | 0, _ => throw .endless
  | n + 1, c => do
      let s ← get
      let process := s.world.nextProcess
      let own := match c with
        | .simple _ _ _ redirects => redirects
        | .subshell _ redirects => redirects
        | .group _ redirects => redirects
        | _ => []
      let held ← redirect n own s.fds
      let holds := (held.getD s.fds).any fun (fd, id) => fd ≠ 0 && (id = 1 || id = 2)
      set s
      let void ← newStream .void
      sleep forkTime
      let body := match c with
        | .subshell body redirects => .group body redirects
        | c => c
      let result ← attempt (child ((0, void) :: s.fds.filter (·.1 ≠ 0)) (runToEnd n do
        modify fun s => { s with tested := false }
        run n body))
      let (number, others) := Job.newPlace s.jobs
      let parts := match c with
        | .pipeline _ cs => cs.length
        | _ => 1
      let job : Job ← (match result with
        | .ok (status, signal) => do
            let finish := (← get).world.now
            modifyWorld fun w => { w with now := s.world.now }
            return { process := process, finish := some finish, status := status, signal := signal }
        | .error .endless => do
            set { s with world := { s.world with nextProcess := process + 1 } }
            return { process := process, finish := none, status := 0 }
        | .error stop => throw stop)
      modify fun s => { s with
        jobs := others ++ [{ job with number := number, parts := parts }], lastJob := some process }
      if holds then
        modifyWorld fun w => { w with holders := w.holders ++ [(process, job.finish)] }
      setStatus 0

def runPipeline : Nat → List Command → Exec Unit
  | 0, _ => throw .endless
  | n + 1, parts => do
      match parts with
      | [] => return ()
      | [c] => run n c
      | parts => runPipes n parts pipeSizes

/-- Tries a pipeline with pipes of the given sizes, one after the other, until the last part has all that it wants to
read. Those that would write more than that are ended by it. -/
def runPipes : Nat → List Command → List Nat → Exec Unit
  | 0, _, _ => throw .endless
  | _, _, [] => throw .endless
  | n + 1, parts, size :: sizes => do
      let before ← get
      match ← runParts n before.world.now size parts none none with
      | some finish => modifyWorld fun w => { w with now := finish }
      | none => do
          let left := (← get).world.steps
          set { before with world := { before.world with steps := left } }
          runPipes n parts sizes

/-- The remaining parts of a pipeline, given what the part before them wrote, and the outer pipe that kept it from
writing more, if one did. The result is the time when all have ended; none if the last part wants more. -/
def runParts : Nat → Nat → Nat → List Command → Option (List (Nat × Octets) × Option Nat) → Option Nat →
    Exec (Option Nat)
  | 0, _, _, _, _, _ => throw .endless
  | _, start, _, [], _, _ => return some start
  | n + 1, start, size, c :: cs, input, outer => do
      modifyWorld fun w => { w with now := start }
      let old := (← get).fds
      let (fds, own) ← (match input with
        | some (left, closes) => do
            let id ← newStream (.pipe left closes)
            return ((0, id) :: old.filter (·.1 ≠ 0), some id)
        | none => return (old, none))
      let outerOf := fun (id : Nat) => if some id = own then outer else some id
      if cs.isEmpty then do
        let result ← attempt (foreground fds (runToEnd n (run n c)))
        dropStreams fun id => some id = own
        match result with
        | .error (.starved id) =>
            match outerOf id with
            | some id => throw (.starved id)
            | none => return none
        | result => do
            let (status, signal) ← resume result
            mourn signal
            setStatus status
            return some (← get).world.now
      else do
        let sink ← newStream (.sink [] size)
        let result ← attempt (foreground ((1, sink) :: fds.filter (·.1 ≠ 1)) (runToEnd n (run n c)))
        let chunks := match ← stream? sink with
          | some (.sink chunks _) => Chunk.inOrder chunks
          | _ => []
        dropStreams fun id => some id = own || id = sink
        let finish := (← get).world.now
        let (closes, outer) ← (match result with
          | .ok _ => return (some finish, none)
          | .error (.full _) => return (none, none)
          | .error (.starved id) => return (none, outerOf id)
          | .error stop => throw stop)
        let last ← runParts n start size cs (some (chunks.map fun chunk => (chunk.time, chunk.text), closes)) outer
        return last.map (max finish)

def assignAll : Nat → List (Octets × Word) → (Octets → Octets → Exec Unit) → Exec (List Octets)
  | 0, _, _ => throw .endless
  | _, [], _ => return []
  | n + 1, (name, w) :: assigns, give => do
      let value ← expandText n w
      give name value
      return (name ++ '=' :: value) :: (← assignAll n assigns give)

def showTrace : Nat → List Octets → Exec Unit
  | 0, _ => throw .endless
  | n + 1, words => do
      if ← hasOption 'x' then do
        modify fun s => { s with options := s.options.filter (· ≠ 'x') }
        let mark ← expandText n [.param "PS4".toList .plain true]
        Builtin.switch true 'x'
        write 2 (mark ++ ([' '] : Octets).intercalate words ++ ['\n'])

def runSimple : Nat → List (Octets × Word) → List Word → List Redirect → Exec Unit
  | 0, _, _, _ => throw .endless
  | n + 1, assigns, words, redirects => do
      let fields ← expandCommand n words
      let touched := redirects.map fun
        | .file fd _ _ => fd
        | .here fd _ => fd
      let within := fun (fds : List (Nat × Nat)) (body : Exec Unit) =>
        if touched.isEmpty then body else withFds fds touched body
      let (fds, good) ← (if redirects.isEmpty then do return ((← get).fds, true)
        else do
          match ← redirect n redirects (← get).fds with
          | some fds => return (fds, true)
          | none => return ([], false))
      match fields with
      | [] => do
          if !good then setStatus 2
          else do
            let shown ← assignAll n assigns assignVar
            if !shown.isEmpty then showTrace n shown
            setStatus (← get).substituted
      | name :: args => do
          let text := String.ofList name
          let function := (← get).functions.lookup name
          let special := function.isNone && Builtin.specials.contains text
          if !good then do
            setStatus 2
            if special then throw (.exit 2)
          else if special then do
            let shown ← assignAll n assigns assignVar
            showTrace n (shown ++ fields)
            if text == "exec" then runExec n fds (assigns.map (·.1)) args
            else within fds do setStatus (← runBuiltin n text true args)
          else do
            let outer ← get
            let bare := assigns.isEmpty
            if !bare then modify fun s => { s with locals := [] }
            let shown ← assignAll n assigns fun name value => do
              if outer.fixed.contains name then fatal (name ++ ": is read only".toList)
              Builtin.makeLocal name
              putVar name value
              markExported name
            showTrace n (shown ++ fields)
            (match function with
              | some body => within fds (runFunction n body args)
              | none =>
                  within fds do
                    if Builtin.names.contains text then setStatus (← runBuiltin n text false args)
                    else runProgram n name args)
            if !bare then Builtin.restoreLocals outer.locals

def runFunction : Nat → Command → List Octets → Exec Unit
  | 0, _, _ => throw .endless
  | n + 1, body, args => do
      let caller ← get
      if caller.calls ≥ deepestCall then
        fatal "Maximum function recursion depth (1000) reached".toList
      set { caller with args := args, locals := [], loops := 0, calls := caller.calls + 1, optionIndex := 1,
                        optionOffset := none }
      let result ← attempt (run n body)
      Builtin.restoreLocals caller.locals
      modify fun s => { s with args := caller.args, loops := caller.loops, calls := caller.calls,
                               optionIndex := caller.optionIndex, optionOffset := caller.optionOffset }
      match result with
      | .error (.returns status) => setStatus status
      | result => resume result

def runExec : Nat → List (Nat × Nat) → List Octets → List Octets → Exec Unit
  | 0, _, _, _ => throw .endless
  | n + 1, fds, assigned, args => do
      modify fun s => { s with fds := fds, status := 0 }
      match args with
      | [] => return ()
      | args => do
          for name in assigned do markExported name
          let command := args.headD []
          match ← launch n [] args with
          | .ended status none => do
              modify fun s => { s with traps := [] }
              throw (.exit status)
          | .ended _ (some signal) => throw (.killed (← get).self signal)
          | .missing => do
              modify fun s => { s with command := "exec".toList }
              say (command ++ ": not found".toList)
              throw (.exit 127)
          | .forbidden => do
              modify fun s => { s with command := "exec".toList }
              say (command ++ ": Permission denied".toList)
              throw (.exit 126)

/-- Runs a program as a command of the script. One that is found by its name and may not be run counts as missing. -/
def runProgram : Nat → Octets → List Octets → Exec Unit
  | 0, _, _ => throw .endless
  | n + 1, name, args => do
      let _ ← Builtin.track name
      match ← launch n [] (name :: args) with
      | .ended status signal => do
          mourn signal
          setStatus status
      | .missing => do
          say (name ++ ": not found".toList)
          setStatus 127
      | .forbidden => do
          say (name ++ ": Permission denied".toList)
          setStatus (if name.contains '/' then 126 else 127)

/-- Runs a program in a process of its own, if there is one of that name. It is looked for in the places that are given
if the environment names none. -/
def launch : Nat → Octets → List Octets → Exec Launched
  | 0, _, _ => throw .endless
  | _, _, [] => return .missing
  | n + 1, fallback, name :: args => do
      let s ← get
      let start := fun (body : Exec Nat) => do
        let (status, signal) ← foreground s.fds do
          modify fun s =>
            let vars := Builtin.environment s
            { s with vars := vars, exported := vars.map (·.1), status := 0 }
          let status ← body
          match (← get).writeFault with
          | some e => do
              complain name ("write error: ".toList ++ e.plainText.toList)
              setStatus (max status 1)
          | none => setStatus status
        return Launched.ended status signal
      match Builtin.search fallback s name with
      | (_, .missing) => return .missing
      | (_, .forbidden) => return .forbidden
      | (path, .script _) => do
          match s.world.files.find s.working (Octets.toBytes path) with
          | .ok (_, .file content _) =>
              match interpreter? (Octets.ofBytes content) with
              | some words => launch n fallback (words ++ path :: args)
              | none => start do
                  runShell n (Octets.ofBytes content) path args []
                  return (← get).status
          | _ => return .missing
      | (_, .builtIn program) =>
          start (if program == "sh" || program == "dash" || program == "bash" then runShellProgram n name args
            else Program.run ⟨launch n programPlaces, runScript n⟩ program name args)

def runScript : Nat → Octets → Exec (Nat × Option Nat)
  | 0, _ => throw .endless
  | n + 1, text => do
      child (← get).fds (runShell n text ['s', 'h'] [] [])

def runShellProgram : Nat → Octets → List Octets → Exec Nat
  | 0, _, _ => throw .endless
  | n + 1, name, args => do
      modify fun s => { freshShell s name [] with line := 0 }
      let takes := args.takeWhile fun a => (a.head? = some '-' || a.head? = some '+') && a.length > 1 && a != ['-', '-']
      let command := takes.any fun a => a.head? = some '-' && a.contains 'c'
      let fromInput := takes.any fun a => a.head? = some '-' && a.contains 's'
      let cleaned := takes.map fun a => a.filter fun c => c ≠ 'c' && c ≠ 's' && c ≠ 'l'
      let (left, _) ← tryCatch (Builtin.setFuel (args.length + 1)
          (cleaned.filter (·.length > 1) ++ args.drop takes.length)) (fun stop =>
        match stop with
        | .failed => throw (.exit 2)
        | stop => throw stop)
      let options := (← get).options
      let ofInput := fun (args : List Octets) => do
        match ← readAll 0 with
        | .ok text => runShell n text name args options
        | .error _ => throw (Stop.exit 2)
      (match left with
        | [] => if command then fatal "-c requires an argument".toList else ofInput []
        | first :: more =>
            if command then runShell n first (more.headD name) more.tail options
            else if fromInput then ofInput (first :: more)
            else do
              match ← readPath first with
              | .ok text => runShell n text first more options
              | .error e => do
                  say (openFault false first e)
                  throw (.exit (if e = .notFound then 2 else 2)))
      return (← get).status

/-- Runs a command of the shell. The faults of some end the shell. -/
def runBuiltin : Nat → String → Bool → List Octets → Exec Nat
  | 0, _, _, _ => throw .endless
  | n + 1, name, special, args => do
      let outer := (← get).command
      modify fun s => { s with command := name.toList, writeFault := none }
      let result ← attempt (builtin n name args)
      match result with
      | .ok status => do
          let fault := (← get).writeFault
          let status ← (match fault with
            | some _ => do
                modify fun s => { s with writeFault := none }
                say (name.toList ++ ": I/O error".toList)
                return max status 1
            | none => return status)
          modify fun s => { s with command := outer }
          return status
      | .error .failed => do
          modify fun s => { s with command := outer }
          if special then throw (.exit 2) else return 2
      | .error stop => do
          modify fun s => { s with command := outer }
          throw stop

def builtin : Nat → String → List Octets → Exec Nat
  | 0, _, _ => throw .endless
  | n + 1, name, args => do
      let s ← get
      match name with
      | "echo" => Builtin.echo args
      | "[" => Builtin.bracket args
      | "test" => Builtin.test args
      | "printf" => Builtin.printf args
      | ":" => return 0
      | "true" => return 0
      | "false" => return 1
      | "exit" =>
          match args with
          | [] => throw (.exit (s.trapStatus.getD s.status))
          | arg :: _ => do throw (.exit (← Builtin.number arg))
      | "return" =>
          match args with
          | [] => throw (.returns s.status)
          | arg :: _ => do throw (.returns (← Builtin.number arg))
      | "break" => do
          let k ← (match args with
            | [] => return 1
            | arg :: _ => Builtin.number arg)
          if k = 0 then fail ("Illegal number: ".toList ++ args.headD [])
          if s.loops = 0 then return 0 else throw (.breaks (min k s.loops))
      | "continue" => do
          let k ← (match args with
            | [] => return 1
            | arg :: _ => Builtin.number arg)
          if k = 0 then fail ("Illegal number: ".toList ++ args.headD [])
          if s.loops = 0 then return 0 else throw (.continues (min k s.loops))
      | "eval" => do
          runText n (([' '] : Octets).intercalate args)
          return (← get).status
      | "." => do
          match args with
          | path :: _ => sourceFile n path
          | [] => return 0
      | "export" => Builtin.exportVars args
      | "readonly" => Builtin.fixVars args
      | "local" => Builtin.localVars args
      | "unset" => Builtin.unsetVars args
      | "set" => Builtin.setOptions args
      | "shift" => do
          let k ← (match args with
            | [] => return 1
            | arg :: _ => Builtin.number arg)
          if k ≤ s.args.length then do
            set { s with args := s.args.drop k, optionIndex := 1, optionOffset := none }
            return 0
          else fail "can't shift that many".toList
      | "trap" => Builtin.setTraps args
      | "times" => do
          write 1 "0m0.000000s 0m0.000000s\n0m0.000000s 0m0.000000s\n".toList
          return 0
      | "cd" => Builtin.cd args
      | "chdir" => Builtin.cd args
      | "pwd" => Builtin.pwd args
      | "read" => Builtin.readVars args
      | "getopts" => Builtin.getopts args
      | "umask" => Builtin.umask args
      | "alias" => Builtin.setAliases args
      | "unalias" => Builtin.dropAliases args
      | "type" => Builtin.describeAll args
      | "hash" => Builtin.hash args
      | "ulimit" => do
          write 1 "unlimited\n".toList
          return 0
      | "kill" => do
          match ← Builtin.killRequest args with
          | .list status => Builtin.listSignals status
          | .send signal processes => sendAll n signal processes true
      | "wait" => do
          let (_, args) ← Builtin.options "" args
          waitFor args
      | "jobs" => showJobs args
      | "fg" => resumeJob args
      | "bg" => resumeJob args
      | "command" => do
          let (given, words) ← Builtin.options "pvV" args
          if given.any (fun o => o.1 = 'v' || o.1 = 'V') then
            match words with
            | [] => return 0
            | word :: _ => do return if ← Builtin.describe (given.any (·.1 = 'V')) word then 0 else 127
          else match words with
            | [] => return 0
            | word :: args => do
                let text := String.ofList word
                if text == "exec" then do
                  runExec n s.fds [] args
                  return 0
                else if Builtin.names.contains text then runBuiltin n text false args
                else do
                  modify fun s => { s with command := [] }
                  runProgram n word args
                  return (← get).status
      | _ => return 2

def sendAll : Nat → Nat → List Octets → Bool → Exec Nat
  | 0, _, _, _ => throw .endless
  | _, _, [], good => return if good then 0 else 1
  | n + 1, signal, process :: processes, good => do
      let s ← get
      let target ← (match process with
        | '%' :: job => do
            -- A child in the background has no group of its own to be sent anything.
            let _ ← jobOf ('%' :: job)
            return none
        | '-' :: group => do return some (← Builtin.number group)
        | process => do return some (← Builtin.number process))
      let target := if target = some 0 then some s.self else target
      let sent ← (match target with
        | some p => sendSignal signal p
        | none => return false)
      if !sent then say "No such process\n".toList
      sendAll n signal processes (good && sent)

def sourceFile : Nat → Octets → Exec Nat
  | 0, _ => throw .endless
  | n + 1, name => do
      let s ← get
      let tries := if name.contains '/' then [name]
        else (Builtin.searchPath [] s).map fun place => if place.isEmpty then name else place ++ '/' :: name
      let found := tries.findSome? fun path =>
        (s.world.files.find s.working (Octets.toBytes path)).toOption.map fun _ => path
      match found with
      | none =>
          if name.contains '/' then fail ("cannot open ".toList ++ name ++ ": No such file".toList)
          else fail (name ++ ": not found".toList)
      | some path => do
          match ← readPath path with
          | .error e => fail (openFault false path e)
          | .ok text => do
              modify fun s => { s with command := [] }
              let result ← attempt (runText n text)
              match result with
              | .error (.returns status) => return status
              | result => do
                  resume result
                  return (← get).status

end

end LintBridge.Shell
