import LintBridge.Shell.Format
import LintBridge.Shell.Signal
import LintBridge.Shell.Test

namespace LintBridge.Shell.Builtin

open Exec

def specials : List String :=
  [":", ".", "break", "continue", "eval", "exec", "exit", "export", "local", "readonly", "return", "set", "shift", "times",
    "trap", "unset"]

def names : List String := specials ++
  ["[", "alias", "bg", "cd", "chdir", "command", "echo", "false", "fg", "getopts", "hash", "jobs", "kill", "printf", "pwd",
    "read", "test", "true", "type", "ulimit", "umask", "unalias", "wait"]

def assigners : List String := ["export", "readonly", "local"]

/-- Takes the letters of the options off the front of some arguments. Letters with a value are followed by a colon. -/
def optionsFuel (letters : Octets) : Nat → List Octets → Exec (List (Char × Octets) × List Octets)
  | 0, args => return ([], args)
  | n + 1, args => do
      match args with
      | ['-', '-'] :: args => return ([], args)
      | ('-' :: c :: cs) :: more =>
          match letters.findIdx? (· = c) with
          | none => fail ("Illegal option -".toList ++ [c])
          | some i =>
              if c = ':' then fail "Illegal option -:".toList
              else if letters[i + 1]? = some ':' then
                if !cs.isEmpty then do
                  let (options, args) ← optionsFuel letters n more
                  return ((c, cs) :: options, args)
                else match more with
                  | value :: more => do
                      let (options, args) ← optionsFuel letters n more
                      return ((c, value) :: options, args)
                  | [] => fail ("No arg for -".toList ++ c :: " option".toList)
              else do
                let (options, args) ← optionsFuel letters n (if cs.isEmpty then more else ('-' :: cs) :: more)
                return ((c, []) :: options, args)
      | args => return ([], args)

def options (letters : String) (args : List Octets) : Exec (List (Char × Octets) × List Octets) :=
  optionsFuel letters.toList ((args.map List.length).foldl (· + ·) (args.length + 1)) args

def number (cs : Octets) : Exec Nat := do
  match Test.number cs with
  | .ok n => if 0 ≤ n && n ≤ 2147483647 then return n.toNat else fail ("Illegal number: ".toList ++ cs)
  | .error _ => fail ("Illegal number: ".toList ++ cs)

def quotedFuel : Nat → Octets → Octets
  | 0, _ => []
  | n + 1, cs =>
      let plain := cs.takeWhile (· ≠ '\x27')
      let rest := cs.drop plain.length
      let quotes := rest.takeWhile (· = '\x27')
      let after := rest.drop quotes.length
      '\x27' :: plain ++ '\x27' :: (if quotes.isEmpty then []
        else '"' :: quotes ++ '"' :: (if after.isEmpty then [] else quotedFuel n after))

def quoted (cs : Octets) : Octets := quotedFuel (cs.length + 1) cs

def noteAssignment (name value : Octets) : Exec Unit := do
  if name == "OPTIND".toList then
    modify fun s => { s with optionIndex := max ((Octets.nat? value).getD 1) 1, optionOffset := none }

def trySet (name value : Octets) : Exec Bool := do
  let s ← get
  if s.fixed.contains name then return false
  else do
    putVar name value
    if s.options.contains 'a' then markExported name
    noteAssignment name value
    return true

def setVar (name value : Octets) : Exec Unit := do
  if !(← trySet name value) then fail (name ++ ": is read only".toList)

def assignVar (name value : Octets) : Exec Unit := do
  if !(← trySet name value) then fatal (name ++ ": is read only".toList)

def unsetVar (name : Octets) : Exec Unit := do
  if !Octets.isName name then fail (name ++ ": bad variable name".toList)
  if (← get).fixed.contains name then fail (name ++ ": is read only".toList)
  dropVar name

def listing (before : Octets) (s : State) (p : Octets → Bool) : Octets :=
  let names := ((s.vars.map (·.1)) ++ (s.exported ++ s.fixed).filter fun n => (s.vars.lookup n).isNone).filter p
  let names := (names.mergeSort Octets.le).eraseDups
  names.flatMap fun name =>
    before ++ name ++ (match s.vars.lookup name with
      | some value => '=' :: quoted value
      | none => []) ++ ['\n']

def mark (word : String) (add : State → Octets → State) (marked : State → List Octets) (args : List Octets) : Exec Nat := do
  let (given, args) ← options "p" args
  if args.isEmpty || !given.isEmpty then do
    let s ← get
    write 1 (listing (word.toList ++ [' ']) s (marked s).contains)
    return 0
  for arg in args do
    let name := arg.takeWhile (· ≠ '=')
    if !Octets.isName name then fail (name ++ ": bad variable name".toList)
    if name.length < arg.length then setVar name (arg.drop (name.length + 1))
    modify fun s => add s name
  return 0

def exportVars (args : List Octets) : Exec Nat :=
  mark "export" (fun s name => if s.exported.contains name then s else { s with exported := s.exported ++ [name] })
    (·.exported) args

def fixVars (args : List Octets) : Exec Nat :=
  mark "readonly" (fun s name => if s.fixed.contains name then s else { s with fixed := name :: s.fixed }) (·.fixed) args

def makeLocal (name : Octets) : Exec Unit :=
  modify fun s =>
    if s.locals.any (·.1 = name) then s
    else { s with locals := (name, s.vars.lookup name, s.exported.contains name) :: s.locals }

def localVars (args : List Octets) : Exec Nat := do
  if (← get).calls = 0 then fail "not in a function".toList
  for arg in args do
    let name := arg.takeWhile (· ≠ '=')
    if !Octets.isName name && name != ['-'] then fail (name ++ ": bad variable name".toList)
    makeLocal name
    if name.length < arg.length then setVar name (arg.drop (name.length + 1))
  return 0

def restoreLocals (outer : List (Octets × Option Octets × Bool)) : Exec Unit := do
  for (name, old, wasExported) in (← get).locals do
    match old with
    | some value => do
        putVar name value
        modify fun s =>
          let others := s.exported.filter (· ≠ name)
          { s with exported := if wasExported then others ++ [name] else others }
    | none => dropVar name
  modify fun s => { s with locals := outer }

def unsetVars (args : List Octets) : Exec Nat := do
  let (given, args) ← options "vf" args
  let functions := (given.getLast?.map (·.1)) = some 'f'
  for arg in args do
    if functions then modify fun s => { s with functions := s.functions.filter (·.1 ≠ arg) }
    else unsetVar arg
  return 0

def bucket (name : Octets) : Nat :=
  (name.foldl (fun n c => n + c.toNat) (((name.head?.map Char.toNat).getD 0) * 16)) % 39

def environment (s : State) : List (Octets × Octets) :=
  (s.vars.filter fun v => s.exported.contains v.1).mergeSort fun a b => bucket a.1 ≤ bucket b.1

def optionTable : List (String × Char) :=
  [("errexit", 'e'), ("noglob", 'f'), ("ignoreeof", 'I'), ("interactive", 'i'), ("monitor", 'm'), ("noexec", 'n'),
    ("stdin", 's'), ("xtrace", 'x'), ("verbose", 'v'), ("vi", 'V'), ("emacs", 'E'), ("noclobber", 'C'), ("allexport", 'a'),
    ("notify", 'b'), ("nounset", 'u'), ("nolog", '0'), ("debug", '1')]

def optionLetters (s : State) : Octets :=
  (optionTable.reverse.map (·.2)).filter fun c => c.isAlpha && s.options.contains c

def switch (on : Bool) (c : Char) : Exec Unit :=
  modify fun s =>
    let others := s.options.filter (· ≠ c)
    { s with options := if on then c :: others else others }

def switchLetter (on : Bool) (c : Char) : Exec Unit := do
  if c.isAlpha && optionTable.any (·.2 = c) then switch on c
  else fail ("Illegal option -".toList ++ [c])

def switchName (on : Bool) (name : Octets) : Exec Unit := do
  match optionTable.find? fun entry => entry.1.toList = name with
  | some (_, c) => switch on c
  | none => fail ("Illegal option -o ".toList ++ name)

def showOptions (on : Bool) : Exec Unit := do
  let s ← get
  let shown := optionTable.map fun (name, c) =>
    let state := s.options.contains c
    if on then Octets.padRight 16 ' ' name.toList ++ (if state then "on" else "off").toList ++ ['\n']
    else "set ".toList ++ (if state then "-o " else "+o ").toList ++ name.toList ++ ['\n']
  write 1 ((if on then "Current option settings\n".toList else []) ++ shown.flatten)

/-- The letters of one argument; an option that goes by its name takes the next argument. -/
def switchLetters (on : Bool) : Octets → List Octets → Exec (List Octets)
  | [], args => return args
  | c :: cs, args => do
      if c = 'o' then
        match args with
        | name :: args => do
            switchName on name
            switchLetters on cs args
        | [] => do
            showOptions on
            switchLetters on cs []
      else do
        switchLetter on c
        switchLetters on cs args

/-- Sets options; returns what is left, and whether it becomes the arguments even if it is nothing. -/
def setFuel : Nat → List Octets → Exec (List Octets × Bool)
  | 0, args => return (args, false)
  | n + 1, args => do
      match args with
      | ['-'] :: args => do
          switch false 'x'
          switch false 'v'
          return (args, false)
      | ['-', '-'] :: args => return (args, true)
      | ('-' :: c :: cs) :: args => do setFuel n (← switchLetters true (c :: cs) args)
      | ('+' :: cs) :: args => do setFuel n (← switchLetters false cs args)
      | args => return (args, false)

def setOptions (args : List Octets) : Exec Nat := do
  if args.isEmpty then do
    let s ← get
    write 1 (listing [] s fun name => (s.vars.lookup name).isSome)
    return 0
  let (left, resets) ← setFuel (args.length + 1) args
  if (← get).options.contains 'm' then do
    -- Without a terminal there is no control of jobs.
    say "can\x27t access tty; job control turned off".toList
    switch false 'm'
  if resets || !left.isEmpty then
    modify fun s => { s with args := left, optionIndex := 1, optionOffset := none }
  return 0

def placeText (place : List Bytes) : Octets :=
  if place.isEmpty then ['/'] else place.flatMap fun name => '/' :: Octets.ofBytes name

def joinPath (start path : Octets) : Octets :=
  let first := if path.head? = some '/' then [] else (Octets.splitOn (· = '/') start).filter (!·.isEmpty)
  let parts := ((Octets.splitOn (· = '/') path).filter (!·.isEmpty)).foldl (fun parts part =>
    if part == ['.'] then parts else if part == ['.', '.'] then parts.dropLast else parts ++ [part]) first
  if parts.isEmpty then ['/'] else parts.flatMap ('/' :: ·)

def goTo (physical : Bool) (path : Octets) : Exec Bool := do
  let s ← get
  let here := if physical then path else joinPath s.here path
  match s.world.files.find s.working (Octets.toBytes here) with
  | .ok (place, .directory) => do
      let now := if physical then placeText place else here
      modify fun s => { s with working := place, here := now }
      putVar "OLDPWD".toList s.here
      putVar "PWD".toList now
      markExported "OLDPWD".toList
      markExported "PWD".toList
      return true
  | _ => return false

def isDirectory (path : Octets) : Exec Bool := do
  let s ← get
  match s.world.files.find s.working (Octets.toBytes path) with
  | .ok (_, .directory) => return true
  | _ => return false

def isAnchored (path : Octets) : Bool :=
  match path with
  | '/' :: _ => true
  | ['.'] => true
  | '.' :: '/' :: _ => true
  | ['.', '.'] => true
  | '.' :: '.' :: '/' :: _ => true
  | _ => false

def cd (args : List Octets) : Exec Nat := do
  let (given, args) ← options "LP" args
  let physical := (given.getLast?.map (·.1)) = some 'P'
  let (target, shows) ← (do
    match args with
    | [] => return ((← var? "HOME".toList).getD [], false)
    | ['-'] :: _ => return ((← var? "OLDPWD".toList).getD [], true)
    | path :: _ => return (path, false))
  let further ← var? "CDPATH".toList
  let places := if isAnchored target then [] else (further.map (Octets.splitOn (· = ':'))).getD []
  let joined := places.map fun place =>
    (if place.isEmpty then target else place ++ '/' :: target, !place.isEmpty)
  let found ← joined.findM? fun entry => isDirectory entry.1
  let (path, shows) := match found with
    | some (path, far) => (path, shows || far)
    | none => (if target.isEmpty then ['.'] else target, shows)
  if ← goTo physical path then do
    if shows then write 1 ((← get).here ++ ['\n'])
    return 0
  else fail ("can't cd to ".toList ++ target)

def pwd (args : List Octets) : Exec Nat := do
  let (given, _) ← options "LP" args
  let s ← get
  write 1 ((if (given.getLast?.map (·.1)) = some 'P' then placeText s.working else s.here) ++ ['\n'])
  return 0

def octalText (n : Nat) : Octets := Octets.padLeft 4 '0' (Nat.toDigits 8 n)

def maskLetters (bits : Nat) : Octets :=
  (if bits &&& 4 = 0 then ['r'] else []) ++ (if bits &&& 2 = 0 then ['w'] else []) ++ (if bits &&& 1 = 0 then ['x'] else [])

def symbolicMask? (mask : Nat) (cs : Octets) : Option Nat :=
  (Octets.splitOn (· = ',') cs).foldlM (fun mask clause =>
    let users := clause.takeWhile fun c => "ugoa".toList.contains c
    match clause.drop users.length with
    | op :: rights =>
        if !rights.all (fun c => "rwx".toList.contains c) then none
        else
          let bits := rights.foldl (fun n c => n ||| (if c = 'r' then 4 else if c = 'w' then 2 else 1)) 0
          let users := if users.isEmpty || users.contains 'a' then ['u', 'g', 'o'] else users
          let field := users.foldl (fun n c => n ||| (bits * (if c = 'u' then 64 else if c = 'g' then 8 else 1))) 0
          let all := users.foldl (fun n c => n ||| (7 * (if c = 'u' then 64 else if c = 'g' then 8 else 1))) 0
          let keep := mask &&& (511 - all)
          match op with
          | '=' => some (keep ||| (all - field))
          | '+' => some (mask &&& (511 - field))
          | '-' => some (mask ||| field)
          | _ => none
    | [] => none) mask

def umask (args : List Octets) : Exec Nat := do
  let (given, args) ← options "S" args
  let mask := (← get).mask
  match args with
  | [] => do
      let text := if given.isEmpty then octalText mask
        else "u=".toList ++ maskLetters (mask / 64) ++ ",g=".toList ++ maskLetters (mask / 8 % 8) ++ ",o=".toList ++
          maskLetters (mask % 8)
      write 1 (text ++ ['\n'])
      return 0
  | arg :: _ => do
      if arg.head?.any Char.isDigit then
        if arg.all fun c => '0' ≤ c && c ≤ '7' then
          modify fun s => { s with mask := (arg.foldl (fun n c => n * 8 + (c.toNat - 48)) 0) % 512 }
        else fail ("Illegal number: ".toList ++ arg)
      else match symbolicMask? mask arg with
        | some mask => modify fun s => { s with mask := mask }
        | none => fail ("Illegal mode: ".toList ++ arg)
      return 0

def setTraps (args : List Octets) : Exec Nat := do
  let (_, args) ← options "" args
  match args with
  | [] => do
      let s ← get
      write 1 ((List.range 65).flatMap fun n =>
        match s.traps.lookup n, Signal.name? n with
        | some action, some name => "trap -- ".toList ++ quoted action ++ ' ' :: name ++ ['\n']
        | _, _ => [])
      return 0
  | first :: rest => do
      let (action, signals) :=
        if rest.isEmpty || ((Octets.nat? first).bind fun n => Signal.name? n).isSome then (['-'], first :: rest)
        else (first, rest)
      let rec handle : List Octets → Exec Nat
        | [] => return 0
        | name :: names => do
            match Signal.number? name with
            | some n => do
                modify fun s =>
                  let others := s.traps.filter (·.1 ≠ n)
                  { s with traps := if action == ['-'] then others else (n, action) :: others }
                handle names
            | none => do
                write 2 ("trap: ".toList ++ name ++ ": bad trap\n".toList)
                return 1
      handle signals

inductive KillRequest where
  | list (status : Option Octets)
  | send (signal : Nat) (processes : List Octets)

def killUsage : Octets :=
  "Usage: kill [-s sigspec | -signum | -sigspec] [pid | job]... or\nkill -l [exitstatus]".toList

def killRequest (args : List Octets) : Exec KillRequest := do
  match args with
  | [] => fail killUsage
  | ('-' :: spec) :: rest =>
      match (Signal.number? spec).filter fun n => n ≠ 0 || spec.all Char.isDigit && !spec.isEmpty with
      | some signal => if rest.isEmpty then fail killUsage else return .send signal rest
      | none => do
          let (given, rest) ← options "ls:" args
          if given.any (·.1 = 'l') then return .list rest.head?
          let signal ← (match (given.filter (·.1 = 's')).getLast? with
            | some (_, name) =>
                match (Signal.number? name).filter fun n => n ≠ 0 || name.all Char.isDigit with
                | some n => return n
                | none => fail ("invalid signal number or name: ".toList ++ name)
            | none => return 15)
          if rest.isEmpty then fail killUsage else return .send signal rest
  | processes => return .send 15 processes

def listSignals : Option Octets → Exec Nat
  | none => do
      write 1 ("0\n".toList ++ (List.range 64).flatMap fun n => ((Signal.name? (n + 1)).getD []) ++ ['\n'])
      return 0
  | some status => do
      let n ← number status
      let n := if n > 128 then n - 128 else n
      match if n = 0 then none else Signal.name? n with
      | some name => do
          write 1 (name ++ ['\n'])
          return 0
      | none => fail ("invalid signal number or exit status: ".toList ++ status)

def readChars (raw : Bool) : Octets → List (Char × Bool)
  | '\\' :: c :: cs => if raw then ('\\', false) :: readChars raw (c :: cs) else (c, true) :: readChars raw cs
  | c :: cs => (c, false) :: readChars raw cs
  | [] => []
  termination_by cs => cs.length

/-- Splits a line that is read into so many parts; the last takes what is left. -/
def readParts (separators : Octets) : Nat → List (Char × Bool) → List Octets
  | 0, _ => []
  | n + 1, cs =>
      let isBlank := fun (c : Char × Bool) => !c.2 && separators.contains c.1 && (c.1 = ' ' || c.1 = '\t' || c.1 = '\n')
      let isSeparator := fun (c : Char × Bool) => !c.2 && separators.contains c.1
      let cs := cs.dropWhile isBlank
      if n = 0 then
        let trimmed := (cs.reverse.dropWhile isBlank).reverse
        let ended := match trimmed.reverse with
          | c :: before => if isSeparator c && !(before.any isSeparator) then before.reverse else trimmed
          | [] => []
        [ended.map (·.1)]
      else
        let part := cs.takeWhile fun c => !isSeparator c
        let after := (cs.drop part.length).dropWhile isBlank
        let after := match after with
          | c :: more => if isSeparator c then more else after
          | [] => []
        part.map (·.1) :: readParts separators n after

def readLogical (raw : Bool) : Nat → Exec (Option (Octets × Bool))
  | 0 => return none
  | n + 1 => do
      match ← readLine 0 with
      | none => return none
      | some (line, ended) =>
          if !raw && ended && line.getLast? = some '\\' && (line.reverse.takeWhile (· = '\\')).length % 2 = 1 then do
            match ← readLogical raw n with
            | some (more, ended) => return some (line.dropLast ++ more, ended)
            | none => return some (line.dropLast, false)
          else return some (line, ended)

def readVars (args : List Octets) : Exec Nat := do
  let (given, names) ← options "p:r" args
  let raw := given.any (·.1 = 'r')
  match names with
  | [] => fail "arg count".toList
  | names => do
      for name in names do
        if !Octets.isName name then fail (name ++ ": bad variable name".toList)
      match ← readLogical raw 100000 with
      | none => do
          for name in names do setVar name []
          return 1
      | some (line, ended) => do
          let separators := (← var? "IFS".toList).getD [' ', '\t', '\n']
          let parts := readParts separators names.length (readChars raw (line.filter (· ≠ '\x00')))
          for (name, i) in names.zipIdx do setVar name ((parts[i]?).getD [])
          return if ended then 0 else 1

structure OptionFound where
  letter : Char
  value : Option Octets
  complaint : Octets
  index : Nat
  offset : Option Nat
  done : Bool

def nextOption (spec : Octets) (args : List Octets) (index : Nat) (offset : Option Nat) : OptionFound :=
  let current := (offset.bind fun k => if index ≤ 1 then none else (args[index - 2]?).map (·.drop k)).getD []
  let (letters, index) : Option Octets × Nat :=
    if !current.isEmpty then (some current, index)
    else match args[index - 1]? with
      | some ('-' :: c :: cs) => if c = '-' && cs.isEmpty then (none, index + 1) else (some (c :: cs), index + 1)
      | _ => (none, index)
  match letters with
  | none => ⟨'?', none, [], index, none, true⟩
  | some [] => ⟨'?', none, [], index, none, true⟩
  | some (c :: cs) =>
      let silent := spec.head? = some ':'
      let offset := ((args[index - 2]?).map fun arg => arg.length - cs.length).filter fun _ => !cs.isEmpty
      match (if c = ':' then none else spec.findIdx? (· = c)) with
      | none =>
          if silent then ⟨'?', some [c], [], index, offset, false⟩
          else ⟨'?', none, "Illegal option -".toList ++ c :: ['\n'], index, offset, false⟩
      | some i =>
          if spec[i + 1]? = some ':' then
            if !cs.isEmpty then ⟨c, some cs, [], index, none, false⟩
            else match args[index - 1]? with
              | some value => ⟨c, some value, [], index + 1, none, false⟩
              | none =>
                  if silent then ⟨':', some [c], [], index, none, false⟩
                  else ⟨'?', none, "No arg for -".toList ++ c :: " option\n".toList, index, none, false⟩
          else ⟨c, some [], [], index, offset, false⟩

def getopts (args : List Octets) : Exec Nat := do
  match args with
  | spec :: var :: own => do
      let s ← get
      let words := if own.isEmpty then s.args else own
      let (index, offset) := if s.optionIndex > words.length + 1 then (1, none) else (s.optionIndex, s.optionOffset)
      let found := nextOption spec words index offset
      write 2 found.complaint
      (match found.value with
        | some value => setVar "OPTARG".toList value
        | none => if found.done then pure () else dropVar "OPTARG".toList)
      setVar "OPTIND".toList (Octets.ofNat found.index)
      setVar var [found.letter]
      modify fun s => { s with optionIndex := found.index, optionOffset := found.offset }
      return if found.done then 1 else 0
  | _ => fail "Usage: getopts optstring var [arg...]".toList

/-- Arguments with blanks between them; escapes are resolved, and one of them can end the output. -/
def echo (args : List Octets) : Exec Nat := do
  let (newline, args) := match args with
    | ['-', 'n'] :: args => (false, args)
    | args => (true, args)
  let (text, goesOn) := Format.unescape .shell (([' '] : Octets).intercalate args)
  write 1 (if newline && goesOn then text ++ ['\n'] else text)
  return 0

def complaintText : Format.Complaint → Octets
  | .missingLetter => "missing format character".toList
  | .invalid directive => directive ++ ": invalid directive".toList
  | .number arg .incomplete => arg ++ ": not completely converted".toList
  | .number arg .range => arg ++ ": Numerical result out of range".toList
  | .number arg _ => arg ++ ": expected numeric value".toList

def printf (args : List Octets) : Exec Nat := do
  let (_, args) ← options "" args
  match args with
  | [] => fail "usage: printf format [arg ...]".toList
  | format :: args => do
      let r := Format.render .shell format args
      for c in r.complaints do say (complaintText c)
      write 1 r.out.flatten
      if r.complaints.any (·.isFatal) then throw .failed
      return if r.complaints.isEmpty then 0 else 1

def test (args : List Octets) : Exec Nat := do
  let s ← get
  match Test.holds ⟨s.world.files, s.working⟩ args with
  | .ok b => return if b then 0 else 1
  | .error e => fail e.message.toList

def bracket (args : List Octets) : Exec Nat := do
  if args.getLast? == some [']'] then test args.dropLast else fail "missing ]".toList

inductive Program where
  | builtIn (name : String)
  | script (path : Octets)
  | missing
  | forbidden
  deriving DecidableEq, Repr

def programAt (s : State) (path : Octets) : Program :=
  match s.world.files.find s.working (Octets.toBytes path) with
  | .ok (_, .program name) => .builtIn name
  | .ok (_, .file _ true) => .script path
  | .ok _ => .forbidden
  | .error e => if e = .notADirectory then .forbidden else .missing

/-- The places where programs are looked for; others are given for an environment that names none. -/
def searchPath (fallback : Octets) (s : State) : List Octets :=
  Octets.splitOn (· = ':') ((s.vars.lookup "PATH".toList).getD fallback)

def search (fallback : Octets) (s : State) (name : Octets) : Octets × Program :=
  if name.contains '/' then (name, programAt s name)
  else
    let tries := (searchPath fallback s).map fun place =>
      let path := if place.isEmpty then name else place ++ '/' :: name
      (path, programAt s path)
    let runs := fun (entry : Octets × Program) => match entry.2 with
      | .builtIn _ => true
      | .script _ => true
      | _ => false
    let found := (tries.find? runs).or (tries.find? fun entry => entry.2 == .forbidden)
    found.getD (name, .missing)

def keywords : List String :=
  ["!", "case", "do", "done", "elif", "else", "esac", "fi", "for", "if", "in", "then", "until", "while", "\x7b", "\x7d"]

def trackedNow (s : State) : List (Octets × Octets) :=
  let places := (s.vars.lookup "PATH".toList).getD []
  s.tracked.filterMap fun (name, path, among) => if among == places then some (name, path) else none

/-- Looks for a program of a name and remembers where it is; false if there is none. -/
def track (name : Octets) : Exec Bool := do
  let s ← get
  if (trackedNow s).any (·.1 = name) then return true
  let (path, program) := search [] s name
  let runs := match program with
    | .builtIn _ => true
    | .script _ => true
    | _ => false
  if runs && !name.contains '/' then
    set { s with tracked := s.tracked ++ [(name, path, (s.vars.lookup "PATH".toList).getD [])] }
  return runs

def trackIndex (name : Octets) : Nat :=
  (name.foldl (fun n c => n + c.toNat) ((name.headD '\x00').toNat * 16)) % 32768 % 31

def hash (args : List Octets) : Exec Nat := do
  let (given, args) ← options "r" args
  if !given.isEmpty then
    modify fun s => { s with tracked := [] }
    return 0
  match args with
  | [] => do
      let found := (trackedNow (← get)).mergeSort fun a b => trackIndex a.1 ≤ trackIndex b.1
      write 1 (found.flatMap fun (_, path) => path ++ ['\n'])
      return 0
  | args => do
      let mut status := 0
      for name in args do
        let known := names.contains (String.ofList name) || (← get).functions.any (·.1 = name)
        if !known && !(← track name) then
          say (name ++ ": not found".toList)
          status := 1
      return status

def describe (verbose : Bool) (name : Octets) : Exec Bool := do
  let s ← get
  let text := String.ofList name
  let tell := fun (long short : Octets) => do
    write 1 ((if verbose then name ++ long else short) ++ ['\n'])
    return true
  let found := fun (path : Octets) => do
    let _ ← track name
    tell ((if (trackedNow s).any (·.1 = name) then " is a tracked alias for " else " is ").toList ++ path) path
  if keywords.contains text then tell " is a shell keyword".toList name
  else match s.aliases.lookup name with
  | some value => tell (" is an alias for ".toList ++ value) ("alias ".toList ++ name ++ '=' :: quoted value)
  | none =>
  if s.functions.any (·.1 = name) then tell " is a shell function".toList name
  else if names.contains text then
    tell (if specials.contains text && text ≠ "local" then " is a special shell builtin" else " is a shell builtin").toList name
  else match search [] s name with
    | (path, .builtIn _) => found path
    | (path, .script _) => found path
    | _ => do
        if verbose then write 1 (name ++ ": not found\n".toList)
        return false

def describeAll (args : List Octets) : Exec Nat := do
  let results ← args.mapM (describe true)
  return if results.all id then 0 else 127

def setAliases (args : List Octets) : Exec Nat := do
  let s ← get
  match args with
  | [] => do
      for (name, value) in s.aliases.mergeSort fun a b => Octets.le a.1 b.1 do
        write 1 (name ++ '=' :: quoted value ++ ['\n'])
      return 0
  | args => do
      let mut status := 0
      for arg in args do
        let name := arg.takeWhile (· ≠ '=')
        if name.length < arg.length && !name.isEmpty then
          modify fun s => { s with aliases := (name, arg.drop (name.length + 1)) :: s.aliases.filter (·.1 ≠ name) }
        else match s.aliases.lookup arg with
          | some value => write 1 (arg ++ '=' :: quoted value ++ ['\n'])
          | none => do
              write 2 ("alias: ".toList ++ arg ++ " not found\n".toList)
              status := 1
      return status

def dropAliases (args : List Octets) : Exec Nat := do
  let (given, args) ← options "a" args
  if !given.isEmpty then do
    modify fun s => { s with aliases := [] }
    return 0
  let mut status := 0
  for arg in args do
    if (← get).aliases.any (·.1 = arg) then
      modify fun s => { s with aliases := s.aliases.filter (·.1 ≠ arg) }
    else do
      write 2 ("unalias: ".toList ++ arg ++ " not found\n".toList)
      status := 1
  return status

end LintBridge.Shell.Builtin
