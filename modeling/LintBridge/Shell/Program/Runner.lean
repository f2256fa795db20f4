import LintBridge.Shell.Program.FileTree
import LintBridge.Shell.Program.System

namespace LintBridge.Shell.Program

open Exec

def replaceText (mark new : Octets) : Nat → Octets → Octets
  | 0, cs => cs
  | _, [] => []
  | n + 1, c :: cs =>
      if !mark.isEmpty && mark.isPrefixOf (c :: cs) then new ++ replaceText mark new n ((c :: cs).drop mark.length)
      else c :: replaceText mark new n cs

def become (c : Caller) (who : Octets) (blame : Octets → Octets) (words : List Octets) : Exec Nat := do
  match ← c.launch words with
  | .ended _ (some signal) => throw (.killed (← get).self signal)
  | .ended status none => return status
  | .missing => do
      complain who (blame (words.headD []) ++ ": No such file or directory".toList)
      return 127
  | .forbidden => do
      complain who (blame (words.headD []) ++ ": Permission denied".toList)
      return 126

def blameCommand (name : Octets) : Octets := "failed to run command ".toList ++ quotes name

def setEnvironment (vars : List (Octets × Octets)) : Exec Unit :=
  modify fun s => { s with vars := vars, exported := vars.map (·.1) }

def env (c : Caller) (who : Octets) (args : List Octets) : Exec Nat := do
  let args := match args with
    | ['-'] :: rest => ['-', 'i'] :: rest
    | args => args
  withOptions who 125 "+0C:iS:u:v" [("ignore-environment", "i"), ("null", "0"), ("unset=", "u"), ("chdir=", "C"),
    ("split-string=", "S"), ("debug", "v"), ("block-signal=?", "block"), ("default-signal=?", "default"),
    ("ignore-signal=?", "ignore"), ("list-signal-handling", "list")] args fun o => do
    let operands := ((o.values "S").flatMap Octets.fields) ++ o.operands
    let operands := match operands with
      | ['-'] :: rest => rest
      | operands => operands
    let s ← get
    let start := if o.has "i" || o.operands.head? == some ['-'] then [] else Builtin.environment s
    let start := start.filter fun v => !(o.values "u").contains v.1
    let assigns := operands.takeWhile fun a => a.contains '='
    let vars := assigns.foldl (fun vars a =>
      let name := a.takeWhile (· ≠ '=')
      assign name (a.drop (name.length + 1)) vars) start
    let words := operands.drop assigns.length
    match words with
    | [] => do
        let ending := if o.has "0" then ['\x00'] else ['\n']
        write 1 (vars.flatMap fun (k, v) => k ++ '=' :: v ++ ending)
        return 0
    | words => do
        match o.value? "C" with
        | some path =>
            match ← goalOf path with
            | .ok (place, .directory) => modify fun s => { s with working := place, here := pathOf place }
            | .ok _ => do
                complain who ("cannot change directory to ".toList ++ quotes path ++ ": Not a directory".toList)
                return 125
            | .error e => do
                complain who ("cannot change directory to ".toList ++ quotes path ++ ": ".toList ++ e.plainText.toList)
                return 125
        | none => pure ()
        setEnvironment vars
        become c who quotes words

def nice (c : Caller) (who : Octets) (args : List Octets) : Exec Nat := do
  let args := match args with
    | ('-' :: d :: ds) :: rest =>
        let digits := if d = '-' || d = '+' then ds else d :: ds
        if !digits.isEmpty && digits.all Char.isDigit then ['-', 'n'] :: (d :: ds) :: rest else args
    | args => args
  withOptions who 125 "+n:" [("adjustment=", "n")] args fun o => do
    match o.value? "n" with
    | some n =>
        if (Octets.int? n).isNone then
          complain who ("invalid adjustment ".toList ++ quotes n)
          return 125
        else if o.operands.isEmpty then misuse who 125 "a command must be given with an adjustment".toList
        else become c who quotes o.operands
    | none => do
        if o.operands.isEmpty then
          write 1 ['0', '\n']
          return 0
        else become c who quotes o.operands

def nohup (c : Caller) (who : Octets) (args : List Octets) : Exec Nat :=
  withOptions who 125 "+" [] args fun o => do
    if o.operands.isEmpty then misuse who 125 "missing operand".toList
    else do
      modify fun s => { s with traps := (1, []) :: s.traps.filter (·.1 ≠ 1) }
      become c who blameCommand o.operands

def setsid (c : Caller) (who : Octets) (args : List Octets) : Exec Nat :=
  withOptions who 1 "+cfw" [("ctty", "c"), ("fork", "f"), ("wait", "w")] args fun o => do
    if o.operands.isEmpty then misuse who 1 "no command specified".toList
    else become c who ("failed to execute ".toList ++ ·) o.operands

def stdbuf (c : Caller) (who : Octets) (args : List Octets) : Exec Nat :=
  withOptions who 125 "+i:o:e:" [("input=", "i"), ("output=", "o"), ("error=", "e")] args fun o => do
    if o.operands.isEmpty then misuse who 125 "missing operand".toList
    else if o.given.isEmpty then misuse who 125 "you must specify a buffering mode option".toList
    else become c who blameCommand o.operands

def limitedSteps : Nat := 3000000

def timeout (c : Caller) (who : Octets) (args : List Octets) : Exec Nat :=
  withOptions who 125 "+fk:ps:v" [("foreground", "f"), ("kill-after=", "k"), ("preserve-status", "p"), ("signal=", "s"), ("verbose", "v")] args fun o => do
    match o.operands with
    | limit :: word :: words =>
        let signal := ((o.value? "s").map fun name =>
          Signal.number? (if "SIG".toList.isPrefixOf name then name.drop 3 else name)).getD (some 15)
        match signal, duration? limit, ((o.value? "k").map duration?).getD (some none) with
        | none, _, _ => misuse who 125 (quotes ((o.value? "s").getD []) ++ ": invalid signal".toList)
        | _, _, none => misuse who 125 ("invalid time interval ".toList ++ quotes ((o.value? "k").getD []))
        | _, none, _ => misuse who 125 ("invalid time interval ".toList ++ quotes limit)
        | some signal, some time, some kill => do
            let s ← get
            let start := s.world.now
            let deadlines : List Deadline := match time with
              | some (nanos + 1) =>
                  let first := start + nanos + 1
                  ⟨first, signal, s.world.nextProcess⟩ :: (match kill with
                    | some more => [⟨first + more, 9, s.world.nextProcess⟩]
                    | none => [])
              | _ => []
            modifyWorld fun w => { w with
              deadlines := w.deadlines ++ deadlines,
              steps := if deadlines.isEmpty then w.steps else min w.steps limitedSteps }
            let result ← attempt (c.launch (word :: words))
            let after ← get
            let missed := deadlines.filter after.world.deadlines.contains
            modifyWorld fun w => { w with deadlines := w.deadlines.filter fun d => !deadlines.contains d }
            let expired := fun (status : Nat) (ended : Option Nat) => do
              if o.has "v" then
                complain who ("sending signal ".toList ++ (Signal.name? signal).getD [] ++ " to command ".toList ++ quotes word)
              if signal = 9 || ended = some 9 then throw (.killed (← get).self 9)
              return if o.has "p" then status else 124
            match result, deadlines.head? with
            | .error .endless, some d => do
                modifyWorld fun w => { w with now := max w.now d.time, steps := s.world.steps }
                expired (128 + signal) (some signal)
            | .error stop, _ => throw stop
            | .ok launched, d => do
                if d.isSome then modifyWorld fun w => { w with steps := s.world.steps - (min s.world.steps limitedSteps - w.steps) }
                match launched with
                | .ended status ended =>
                    if d.any fun d => !missed.contains d && d.time ≤ after.world.now then expired status ended
                    else match ended with
                      | some signal => throw (.killed (← get).self signal)
                      | none => return status
                | .missing => do
                    complain who (blameCommand word ++ ": No such file or directory".toList)
                    return 127
                | .forbidden => do
                    complain who (blameCommand word ++ ": Permission denied".toList)
                    return 126
    | _ => do
        write 2 (hint who)
        return 125

structure Items where
  done : List (Octets × Bool) := []
  item : Octets := []
  started : Bool := false
  quote : Option Char := none
  escaped : Bool := false
  afterBlank : Bool := false
  broken : Bool := false

/-- Ends the item under way. A blank at the end of a line joins the line with the next one. -/
def Items.finish (s : Items) (lineEnds : Bool) : Items :=
  if s.started then { s with done := (s.item.reverse, lineEnds && !s.afterBlank) :: s.done, item := [], started := false }
  else if lineEnds && !s.afterBlank then
    { s with done := match s.done with
      | (item, _) :: done => (item, true) :: done
      | [] => [] }
  else s

def Items.step (byLine : Bool) (s : Items) (c : Char) : Items :=
  if s.escaped then { s with item := c :: s.item, started := true, escaped := false, afterBlank := false }
  else match s.quote with
    | some q => if c = q then { s with quote := none } else { s with item := c :: s.item }
    | none =>
        if c = '\\' then { s with escaped := true, started := true, afterBlank := false }
        else if c = '\x27' || c = '"' then { s with quote := some c, started := true, afterBlank := false }
        else if c = '\n' then { s.finish true with afterBlank := false }
        else if (c = ' ' || c = '\t') && (!byLine || !s.started) then { s.finish false with afterBlank := true }
        else { s with item := c :: s.item, started := true, afterBlank := false }

/-- The items of a text with whether a line ends after each, and the quote that is still open where a line ends. -/
def readItems (byLine : Bool) (text : Octets) : List (Octets × Bool) × Option Char :=
  let s := text.foldl (fun (s : Items) c =>
    if s.broken then s
    else if s.quote.isSome && c = '\n' then { s with broken := true }
    else s.step byLine c) {}
  match s.quote with
  | some q => (s.done.reverse, some q)
  | none => (({ s with afterBlank := false }.finish true).done.reverse, none)

def batch (items lines : Option Nat) (room : Nat) : List (Octets × Bool) → List Octets → Nat → Nat → List (List Octets)
  | [], now, _, _ => if now.isEmpty then [] else [now.reverse]
  | (item, ended) :: rest, now, ends, size =>
      let size' := size + item.length + 1
      if !now.isEmpty && (items.any (· ≤ now.length) || lines.any (· ≤ ends) || room < size') then
        now.reverse :: batch items lines room rest [item] (if ended then 1 else 0) (item.length + 1)
      else batch items lines room rest (item :: now) (if ended then ends + 1 else ends) size'

def delimiter (cs : Octets) : Char :=
  match (Format.unescape .program cs).1 with
  | c :: _ => c
  | [] => '\x00'

def runBatches (c : Caller) (who : Octets) (shows : Bool) : List (List Octets) → Nat → Exec Nat
  | [], status => return status
  | words :: more, status => do
      if shows then write 2 (([' '] : Octets).intercalate words ++ ['\n'])
      let void ← newStream .void
      match ← withFd 0 void (c.launch words) with
      | .ended _ (some signal) => do
          complain who (words.headD [] ++ ": terminated by signal ".toList ++ Octets.ofNat signal)
          return 125
      | .ended 255 none => do
          complain who (words.headD [] ++ ": exited with status 255; aborting".toList)
          return 124
      | .ended 0 none => runBatches c who shows more status
      | .ended _ none => runBatches c who shows more 123
      | .missing => do
          complain who (words.headD [] ++ ": No such file or directory".toList)
          return 127
      | .forbidden => do
          complain who (words.headD [] ++ ": Permission denied".toList)
          return 126

def xargs (c : Caller) (who : Octets) (args : List Octets) : Exec Nat :=
  withOptions who 1 "+0a:d:e::E:i::I:l::L:n:pP:rs:tx" [("null", "0"), ("arg-file=", "a"), ("delimiter=", "d"), ("eof=?", "e"),
    ("replace=?", "i"), ("max-lines=?", "l"), ("max-args=", "n"), ("max-procs=", "P"), ("interactive", "p"),
    ("no-run-if-empty", "r"), ("max-chars=", "s"), ("verbose", "t"), ("exit", "x"), ("show-limits", "limits"),
    ("process-slot-var=", "slot"), ("open-tty", "o")] args fun o => do
    let counts := [("n", o.value? "n"), ("L", o.value? "L"), ("s", o.value? "s")]
    match counts.findSome? fun (key, v) => v.bind fun v =>
      match Octets.nat? v with
      | none => some ("invalid number \"".toList ++ v ++ "\" for -".toList ++ key.toList ++ " option".toList)
      | some 0 => some ("value 0 for -".toList ++ key.toList ++ " option should be >= 1".toList)
      | some _ => none with
    | some text => misuse who 1 text
    | none => do
    let number := fun (key : String) => (o.value? key).bind Octets.nat?
    let text ← (match o.value? "a" with
      | some path => do return (path, ← readOperand path)
      | none => do return (['-'], ← readAll 0))
    match text with
    | (path, .error e) => do
        complain who ("Cannot open input file ".toList ++ quotes path ++ ": ".toList ++ e.plainText.toList)
        return 1
    | (_, .ok text) => do
        let words := if o.operands.isEmpty then ["echo".toList] else o.operands
        let mark := match o.given.reverse.find? fun g => ["I", "i"].contains g.1 with
          | some (_, []) => some ['\x7b', '\x7d']
          | some (_, m) => some m
          | none => none
        let cut := fun (d : Char) => (Octets.itemsEnding d text).map fun (item, _) => (item, true)
        let (items, openQuote) : List (Octets × Bool) × Option Char := if o.has "0" then (cut '\x00', none)
          else match o.value? "d" with
            | some d => (cut (delimiter d), none)
            | none => readItems mark.isSome text
        let items := match (o.value? "E" <|> o.value? "e") with
          | some (e :: es) => items.takeWhile fun i => i.1 != e :: es
          | _ => items
        let run := fun (batches last : List (List Octets)) => do
          match openQuote with
          | none => runBatches c who (o.has "t") (batches ++ last) 0
          | some q => do
              let _ ← runBatches c who (o.has "t") batches 0
              complain who ("unmatched ".toList ++ (if q = '"' then "double" else "single").toList ++
                " quote; by default quotes are special to xargs unless you use the -0 option".toList)
              let _ ← runBatches c who (o.has "t") last 0
              return 1
        match mark with
        | some mark => do
            if o.has "n" then
              complain who ("warning: options --max-args and --replace/-I/-i are mutually exclusive, " ++
                "ignoring previous --max-args value").toList
            run (items.map fun (item, _) =>
              words.head?.toList ++ words.tail.map fun w => replaceText mark item (w.length + 1) w) []
        | none => do
            let fixed := words.foldl (fun n w => n + w.length + 1) 0
            let room := (number "s").getD 131072 - fixed
            if items.any fun i => room < i.1.length + 1 then
              complain who "argument line too long".toList
              return 1
            let lines := match o.value? "l" with
              | some [] => some 1
              | some l => Octets.nat? l
              | none => number "L"
            let kept := if openQuote.isSome && (lines.isSome || o.has "x") then
                (items.reverse.dropWhile fun i => !i.2).reverse
              else items
            let batches := batch (number "n") lines room kept [] 0 0
            let batches := if batches.isEmpty && !o.has "r" && openQuote.isNone then [[]] else batches
            let batches := batches.map (words ++ ·)
            run batches.dropLast (batches.getLast?.toList)

end LintBridge.Shell.Program
