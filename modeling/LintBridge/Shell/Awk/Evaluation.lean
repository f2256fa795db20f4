import LintBridge.Shell.Awk.Memory
import LintBridge.Shell.Awk.Reader
import LintBridge.Shell.Program.Basic
import LintBridge.Shell.Sed.Editing

namespace LintBridge.Shell.Awk

inductive Halt where
  | next
  | nextFile
  | exit
  | fault (text : Octets)
  | stop (s : Stop)

inductive Flow where
  | goesOn
  | breaks
  | continues
  | returns (v : Value)

structure Stage where
  memory : Memory
  machine : State

abbrev Run := EStateM Halt Stage

structure Context where
  script : Script
  functions : Std.HashMap String Definition
  arrayParameters : List (String × Nat)
  caller : Program.Caller
  who : Octets

def outside {α : Type} (x : Exec α) : Run α := fun s =>
  match (ExceptT.run x).run s.machine with
  | (.ok a, machine) => .ok a { s with machine := machine }
  | (.error stop, machine) => .error (.stop stop) { s with machine := machine }

def memory : Run Memory := do return (← get).memory

def remember (f : Memory → Memory) : Run Unit := modify fun s => { s with memory := f s.memory }

def lookUp {α : Type} (f : Memory → α × Memory) : Run α := fun s =>
  let (a, m) := f s.memory
  .ok a { s with memory := m }

def flush : Run Unit := do
  let m ← memory
  if !m.out.isEmpty then
    remember fun m => { m with out := [], outSize := 0 }
    outside (Exec.write 1 m.out.reverse.flatten)

def outputBuffer : Nat := 65536

def emit (text : Octets) : Run Unit := do
  remember fun m => { m with out := text :: m.out, outSize := m.outSize + text.length }
  if (← memory).outSize > outputBuffer then flush

def giveUp {α : Type} (text : Octets) : Run α := throw (.fault text)

def giveUpAt {α : Type} (text : Octets) : Run α := do
  let m ← memory
  let name := ((m.shared[fileNameIndex]?).getD .unset).toText usualFormat
  giveUp ("run time error: ".toList ++ text ++ "\n\tFILENAME=\"".toList ++ name ++ "\" FNR=".toList ++
    numText usualFormat m.fileRecordNumber ++ " NR=".toList ++ numText usualFormat m.recordNumber)

def fieldCutOf (text : Octets) : Except Regex.Fault Separator :=
  match text with
  | [] => .ok .nothing
  | [' '] => .ok .blanks
  | [c] => .ok (.char c)
  | text => (Regex.parse .awk text).map .regex

def recordCutOf (text : Octets) : Except Regex.Fault Separator :=
  match text with
  | [] => .ok .emptyLines
  | [c] => .ok (.char c)
  | text => (Regex.parse .awk text).map .regex

def badRegex {α : Type} (f : Regex.Fault) (text : Octets) : Run α :=
  giveUp ((Fault.regex (regexReason f) text).message)

def getSpecial (s : Special) : Run Value := do
  match s with
  | .numberOfFields => do
      let fields ← lookUp Memory.cut
      return .ofNat fields.size
  | .recordNumber => return .num (← memory).recordNumber
  | .fileRecordNumber => return .num (← memory).fileRecordNumber
  | .fieldSeparator => return (← memory).fieldSeparator
  | .recordSeparator => return (← memory).recordSeparator
  | .outputFieldSeparator => return .str (← memory).outputFieldSeparator
  | .outputRecordSeparator => return .str (← memory).outputRecordSeparator
  | .subscriptSeparator => return .str (← memory).subscriptSeparator
  | .conversionFormat => return .str (← memory).conversionFormat
  | .outputFormat => return .str (← memory).outputFormat

def textOf (v : Value) : Run Octets := do return v.toText (← memory).conversionFormat

def countOf (v : Value) : Nat := (truncated v.toNum).toNat

def setSpecial (s : Special) (v : Value) : Run Unit := do
  match s with
  | .numberOfFields => remember fun m => m.setFieldCount (countOf v)
  | .recordNumber => remember fun m => { m with recordNumber := v.toNum }
  | .fileRecordNumber => remember fun m => { m with fileRecordNumber := v.toNum }
  | .fieldSeparator => do
      let text ← textOf v
      match fieldCutOf text with
      | .ok cut => remember fun m => { m with fieldSeparator := v, fieldCut := cut }
      | .error f => badRegex f text
  | .recordSeparator => do
      let text ← textOf v
      match recordCutOf text with
      | .ok cut =>
          remember fun m =>
            { m with recordSeparator := v, recordCut := cut, main := m.main.map fun f => { f with ready := [] } }
      | .error f => badRegex f text
  | .outputFieldSeparator => do
      let text ← textOf v
      remember fun m => { m with outputFieldSeparator := text }
  | .outputRecordSeparator => do
      let text ← textOf v
      remember fun m => { m with outputRecordSeparator := text }
  | .subscriptSeparator => do
      let text ← textOf v
      remember fun m => { m with subscriptSeparator := text }
  | .conversionFormat => do
      let text ← textOf v
      remember fun m => { m with conversionFormat := text }
  | .outputFormat => do
      let text ← textOf v
      remember fun m => { m with outputFormat := text }

def getVar (v : Variable) : Run Value := do
  match v with
  | .special s => getSpecial s
  | .shared i => return ((← memory).shared[i]?).getD .unset
  | .parameter i =>
      match (← memory).frame[i]? with
      | some (.value v) => return v
      | _ => return .unset

def setVar (v : Variable) (x : Value) : Run Unit := do
  match v with
  | .special s => setSpecial s x
  | .shared i => remember fun m => { m with shared := m.shared.setIfInBounds i x }
  | .parameter i => remember fun m => { m with frame := m.frame.setIfInBounds i (.value x) }

def withTable {α : Type} (v : Variable) (f : Table → α × Table) : Run α :=
  lookUp fun m =>
    let id := m.tableId v
    let t := m.tableAt id
    let (a, t) := f t
    (a, m.setTable id t)

def regexText (text : Octets) : Run Regex := do
  match (← memory).regexes[text]? with
  | some r => return r
  | none =>
      match Regex.parse .awk text with
      | .ok r => do
          remember fun m => { m with regexes := m.regexes.insert text r }
          return r
      | .error f => badRegex f text

def replacementPieces : Octets → List Sed.Piece
  | '\\' :: '&' :: cs => .char '&' :: replacementPieces cs
  | '\\' :: '\\' :: '&' :: cs => .char '\\' :: .group 0 :: replacementPieces cs
  | '\\' :: '\\' :: cs => .char '\\' :: replacementPieces cs
  | '&' :: cs => .group 0 :: replacementPieces cs
  | c :: cs => .char c :: replacementPieces cs
  | [] => []

/-- Replaces matches from a place on, and counts them. An empty match right after another one does not count. -/
def replaceFrom (laid : Regex.Laid) (pieces : List Sed.Piece) (all : Bool) :
    Nat → Nat → Nat → Option Nat → Array Char → Array Char × Nat
  | 0, start, count, _, out => (out ++ laid.text.extract start laid.text.size, count)
  | n + 1, start, count, lastStop, out =>
      let text := laid.text
      match laid.find? start with
      | none => (out ++ text.extract start text.size, count)
      | some m =>
          let out := out ++ text.extract start m.start
          let isEmpty := m.start = m.stop
          let skipped := isEmpty && lastStop = some m.start
          let out := if skipped then out else Sed.fill text m none none pieces out
          let count := if skipped then count else count + 1
          if !all then (out ++ text.extract m.stop text.size, count)
          else if isEmpty then
            if m.start < text.size then
              replaceFrom laid pieces all n (m.start + 1) count none (out ++ text.extract m.start (m.start + 1))
            else (out, count)
          else replaceFrom laid pieces all n m.stop count (some m.stop) out

def towardZero (x : Float) : Float := if x < 0 then x.ceil else x.floor

def remainder (x y : Float) : Float :=
  if y == 0 || x.isInf || x.isNaN || y.isNaN then 0.0 / 0.0
  else if y.isInf then x
  else
    let (a, b) := Double.quotient x
    let (c, d) := Double.quotient y
    -- Both numbers are quotients of whole numbers, so that what is left is exact.
    let left := (a * d) % (c * b)
    let size := b * d
    let r := Float.ofScientific left false 0 / Float.ofScientific size false 0
    let r := if left = 0 then 0 else r
    if Double.isNegative x then -r else r

def Operator.apply (op : Operator) (x y : Float) : Float :=
  match op with
  | .add => x + y
  | .subtract => x - y
  | .multiply => x * y
  | .divide => x / y
  | .modulo => remainder x y
  | .power => Float.pow x y

def Comparison.holds (op : Comparison) (o : Ordering) : Bool :=
  match op with
  | .less => o == .lt
  | .atMost => o != .gt
  | .equal => o == .eq
  | .different => o != .eq
  | .greater => o == .gt
  | .atLeast => o != .lt

def feedOf (id : Nat) : Exec (Except Tool.SystemError Feed) :=
  Exec.withFd 0 id do
    match ← Exec.readReady 0 with
    | .error e => return .error e
    | .ok (text, true) => return .ok { text := text }
    | .ok (text, false) => do
        match ← Exec.attempt (Exec.starve 0 : Exec Unit) with
        | .error stop => return .ok { text := text, stop := some stop }
        | .ok _ => return .ok { text := text }

def openFeed (path : Octets) : Exec (Except Tool.SystemError Feed) := do
  if path == ['-'] || path == "/dev/stdin".toList then
    match (← get).fds.lookup 0 with
    | some id => feedOf id
    | none => return .error (.code 9)
  else
    match ← Exec.openRead path with
    | .ok id => feedOf id
    | .error e => return .error e

def givenText (cs : Octets) : Octets := ((quoted (cs.length + 2) [] (cs ++ ['"'])).map (·.1)).getD cs

def assignment? (cs : Octets) : Option (Octets × Octets) :=
  let name := cs.takeWhile (· ≠ '=')
  if Octets.isName name && name.length < cs.length then some (name, cs.drop (name.length + 1)) else none

/-- The variable of a name; of a name that the program does not use there is none. -/
def sharedVariable? (c : Context) (name : Octets) : Option Variable :=
  let name := String.ofList name
  ((Special.names.lookup name).map Variable.special).or ((c.script.names.findIdx? (· == name)).map Variable.shared)

def assignGiven (c : Context) (name text : Octets) : Run Unit := do
  match sharedVariable? c name with
  | some v => setVar v (.input (givenText text))
  | none => return ()

/-- Opens the next operand that is a file, or the input if there is none. Operands that set variables do so. -/
def openMain (c : Context) : Nat → Run Bool
  | 0 => return false
  | n + 1 => do
      let m ← memory
      let count := countOf ((m.shared[argumentCountIndex]?).getD .unset)
      let setName := fun (name : Octets) =>
        remember fun m => { m with shared := m.shared.setIfInBounds fileNameIndex (.str name), fileRecordNumber := 0 }
      if m.operand ≥ count then
        if m.anyOperand then
          remember fun m => { m with mainDone := true, main := none }
          return false
        else do
          remember fun m => { m with anyOperand := true }
          setName ['-']
          match ← outside (openFeed ['-']) with
          | .ok feed => do
              remember fun m => { m with main := some feed }
              return true
          | .error e => giveUp ("read error (".toList ++ e.plainText.toList ++ [')'])
      else do
        let key : Table.Key := ⟨Octets.ofNat m.operand, some m.operand⟩
        let value := if (m.tableAt argumentsIndex).contains key then ((m.tableAt argumentsIndex).get key).1 else .str []
        let text := value.toText m.conversionFormat
        remember fun m => { m with operand := m.operand + 1 }
        if text.isEmpty then openMain c n
        else match assignment? text with
          | some (name, value) => do
              assignGiven c name value
              openMain c n
          | none => do
              remember fun m => { m with anyOperand := true }
              match ← outside (openFeed text) with
              | .ok feed => do
                  setName text
                  remember fun m => { m with main := some feed }
                  return true
              | .error e =>
                  if e = .code 21 then giveUp ("read error (".toList ++ e.plainText.toList ++ [')'])
                  else giveUp ("cannot open ".toList ++ text ++ " (".toList ++ e.plainText.toList ++ [')'])

def nextMain (c : Context) : Nat → Run (Option Octets)
  | 0 => return none
  | n + 1 => do
      let m ← memory
      if m.mainDone then return none
      match m.main with
      | none => do if ← openMain c (countOf ((m.shared[argumentCountIndex]?).getD .unset) + 2) then nextMain c n else return none
      | some feed =>
          match feed.take m.recordCut with
          | some (record, feed) => do
              remember fun m =>
                { m with main := some feed, recordNumber := m.recordNumber + 1, fileRecordNumber := m.fileRecordNumber + 1 }
              return some record
          | none =>
              match feed.stop with
              | some stop => do
                  flush
                  throw (.stop stop)
              | none => do
                  remember fun m => { m with main := none }
                  nextMain c n

def mostFiles : Nat := 100000

def readMain (c : Context) : Run (Option Octets) := nextMain c mostFiles

def readFile (path : Octets) : Run (Option (Option Octets)) := do
  let m ← memory
  let feed ← (match m.files.lookup path with
    | some feed => return some feed
    | none => do
        match ← outside (openFeed path) with
        | .ok feed => return some feed
        | .error _ => return none : Run (Option Feed))
  match feed with
  | none => return none
  | some feed =>
      match feed.take m.recordCut with
      | some (record, feed) => do
          remember fun m => { m with files := (path, feed) :: m.files.filter (·.1 ≠ path) }
          return some (some record)
      | none =>
          match feed.stop with
          | some stop => do
              flush
              throw (.stop stop)
          | none => do
              remember fun m => { m with files := (path, feed) :: m.files.filter (·.1 ≠ path) }
              return some none

def readCommand (c : Context) (command : Octets) : Run (Option Octets) := do
  let m ← memory
  let (feed, status) ← (match m.commands.lookup command with
    | some found => return found
    | none => do
        flush
        let (text, status, signal) ← outside (c.caller.outputOf command)
        return ({ text := text }, match signal with
          | some s => 256 + s
          | none => status) : Run (Feed × Nat))
  let keep := fun (feed : Feed) =>
    remember fun m => { m with commands := (command, feed, status) :: m.commands.filter (·.1 ≠ command) }
  match feed.take m.recordCut with
  | some (record, feed) => do
      keep feed
      return some record
  | none => do
      keep feed
      return none

def feedCommand (c : Context) (command : Octets) (text : Octets) : Exec (Nat × Option Nat) := do
  let id ← Exec.newStream (.input text text)
  let fds := (← get).fds
  Exec.withFds ((0, id) :: fds.filter (·.1 ≠ 0)) [0] (c.caller.shell command)

def closeOutlet (c : Context) (name : Octets) : Outlet → Run Nat
  | .stream _ => return 0
  | .descriptor _ => return 0
  | .command text => do
      let (status, signal) ← outside (feedCommand c name text.reverse.flatten)
      return match signal with
        | some s => 256 + s
        | none => status

def closeAll (c : Context) (name : Octets) : Run Int := do
  let m ← memory
  let outlet := m.outlets.lookup name
  let command := m.commands.lookup name
  let isFile := (m.files.lookup name).isSome
  remember fun m => { m with
    outlets := m.outlets.filter (·.1 ≠ name), commands := m.commands.filter (·.1 ≠ name),
    files := m.files.filter (·.1 ≠ name) }
  match outlet, command with
  | some outlet, _ => return (← closeOutlet c name outlet)
  | none, some (_, status) => return status
  | none, none => return if isFile then 0 else -1

def closeOutlets (c : Context) : List (Octets × Outlet) → Run Unit
  | [] => return ()
  | (name, outlet) :: rest => do
      let _ ← closeOutlet c name outlet
      closeOutlets c rest

def openOutlet (path : Octets) (append : Bool) : Run Outlet := do
  if path == "/dev/stdout".toList then return .descriptor 1
  if path == "/dev/stderr".toList then return .descriptor 2
  match ← outside (Exec.openWrite path append) with
  | .ok id => return .stream id
  | .error e => giveUp ("cannot open ".toList ++ path ++ " for output (".toList ++ e.plainText.toList ++ [')'])

def emitTo (name : Octets) (start : Run Outlet) (text : Octets) : Run Unit := do
  let outlet ← (match (← memory).outlets.lookup name with
    | some outlet => return outlet
    | none => start : Run Outlet)
  let outlet ← (match outlet with
    | .stream id => do
        outside (Exec.withFd 1 id (Exec.write 1 text))
        return outlet
    | .descriptor fd => do
        if fd = 1 then emit text else outside (Exec.write fd text)
        return outlet
    | .command texts => return .command (text :: texts) : Run Outlet)
  remember fun m => { m with outlets := (name, outlet) :: m.outlets.filter (·.1 ≠ name) }

def deepestCall : Nat := 4000

def cutOut (text : Octets) (start : Float) (length : Option Float) : Octets :=
  let first := towardZero start
  let stop := match length with
    | some l => first + towardZero l
    | none => text.length.toFloat + 1
  let low := if first < 1 then 1 else countOf (.num first)
  let high := if stop < 1 then 1 else countOf (.num stop)
  (text.drop (low - 1)).take (high - low)

def indexIn (text wanted : Octets) : Nat → Octets → Nat
  | n, rest =>
      if wanted.isPrefixOf rest then n
      else match rest with
        | [] => 0
        | _ :: rest => indexIn text wanted (n + 1) rest

def badFormat (name : String) (form : Octets) (fault : FormatFault) : Run Value :=
  let call := name.toList ++ "(\"".toList ++ form ++ "\")".toList
  match fault with
  | .fewArguments => giveUpAt ("not enough arguments passed to ".toList ++ call)
  | .badDirective k => giveUpAt ("improper conversion(number ".toList ++ Octets.ofNat k ++ ") in ".toList ++ call)

def builtInValue (f : Function) (values : List Value) : Run Value := do
  let format := (← memory).conversionFormat
  let x := (values.headD .unset).toNum
  match f, values with
  | .substr, s :: start :: more => return .str (cutOut (s.toText format) start.toNum (more.head?.map Value.toNum))
  | .index, s :: t :: _ =>
      let text := s.toText format
      return .ofNat (indexIn text (t.toText format) 1 text)
  | .toupper, s :: _ => return .str ((s.toText format).map Char.toUpper)
  | .tolower, s :: _ => return .str ((s.toText format).map Char.toLower)
  | .sprintf, s :: values =>
      let form := s.toText format
      match formatWith format form values with
      | (text, none) => return .str text
      | (_, some fault) => badFormat "sprintf" form fault
  | .int, _ => return .num (towardZero x)
  | .sqrt, _ => return .num x.sqrt
  | .exp, _ => return .num x.exp
  | .log, _ => return .num x.log
  | .sin, _ => return .num x.sin
  | .cos, _ => return .num x.cos
  | .atan2, y :: x :: _ => return .num (Float.atan2 y.toNum x.toNum)
  | .rand, _ => do
      let r ← lookUp fun m =>
        let (r, sequence) := nextRandom (if m.random.isEmpty then seeded 1 else m.random)
        (r, { m with random := sequence })
      return .num (r.toFloat / 2147483647.0)
  | .srand, values => do
      let now := (← get).machine.world.now / 1000000000
      let seed := values.headD (.ofNat now)
      let old := (← memory).seed
      remember fun m => { m with seed := seed, random := seeded (countOf seed) }
      return old
  | .fflush, _ => do
      flush
      return .num 0
  | .systime, _ => return .ofNat ((← get).machine.world.now / 1000000000)
  | _, _ => return .unset

mutual

def eval (c : Context) : Nat → Expr → Run Value
  | 0, _ => throw (.stop .endless)
  | n + 1, e => do
      match e with
      | .num x => return .num x
      | .str cs => return .str cs
      | .regex r => do
          let m ← memory
          return .ofBool (r.isIn ⟨false, false⟩ m.record)
      | .var v => getVar v
      | .field e => do
          let i ← fieldIndex c n e
          lookUp fun m => m.getField i
      | .item array index => do
          let key ← subscript c n index
          withTable array fun t => t.get key
      | .assign target op e => do
          match op with
          | none => do
              let v ← eval c n e
              store c n target v
              return v
          | some op => do
              let y ← eval c n e
              let x ← eval c n target
              let v := Value.num (op.apply x.toNum y.toNum)
              store c n target v
              return v
      | .bump target change after => do
          let old := (← eval c n target).toNum
          store c n target (.num (old + change))
          return .num (if after then old + change else old)
      | .cond test a b => do
          let v ← eval c n test
          if v.truth then eval c n a else eval c n b
      | .both a b => do
          let v ← eval c n a
          if v.truth then
            let w ← eval c n b
            return .ofBool w.truth
          else return .ofBool false
      | .either a b => do
          let v ← eval c n a
          if v.truth then return .ofBool true
          else
            let w ← eval c n b
            return .ofBool w.truth
      | .member index array => do
          let key ← subscript c n index
          let m ← memory
          return .ofBool ((m.tableAt (m.tableId array)).contains key)
      | .hits e pattern wanted => do
          let text ← evalText c n e
          let r ← regexIn c n pattern
          return .ofBool (r.isIn ⟨false, false⟩ text == wanted)
      | .compare op a b => do
          let x ← eval c n a
          let y ← eval c n b
          return .ofBool (op.holds (x.order (← memory).conversionFormat y))
      | .concat a b => do
          let x ← evalText c n a
          let y ← evalText c n b
          return .str (x ++ y)
      | .arith op a b => do
          let x ← eval c n a
          let y ← eval c n b
          return .num (op.apply x.toNum y.toNum)
      | .sign s e => do
          let v ← eval c n e
          match s with
          | .minus => return .num (-v.toNum)
          | .plus => return .num v.toNum
          | .negation => return .ofBool (!v.truth)
      | .call name args => callFunction c n name args
      | .builtIn f args => callBuiltIn c n f args
      | .getMain target => do
          match ← readMain c with
          | none => return .num 0
          | some record => do
              storeRecord c n target record
              return .num 1
      | .getFile path target => do
          match ← readFile (← evalText c n path) with
          | none => return .num (-1)
          | some none => return .num 0
          | some (some record) => do
              storeRecord c n target record
              return .num 1
      | .getCommand command target => do
          match ← readCommand c (← evalText c n command) with
          | none => return .num 0
          | some record => do
              storeRecord c n target record
              return .num 1

def evalText (c : Context) : Nat → Expr → Run Octets
  | 0, _ => throw (.stop .endless)
  | n + 1, e => do textOf (← eval c n e)

def fieldIndex (c : Context) : Nat → Expr → Run Nat
  | 0, _ => throw (.stop .endless)
  | n + 1, e => do
      let v ← eval c n e
      let i := truncated v.toNum
      if i < 0 then giveUpAt ("negative field index $".toList ++ Octets.ofInt i) else return i.toNat

def storeRecord (c : Context) : Nat → Option Expr → Octets → Run Unit
  | 0, _, _ => throw (.stop .endless)
  | n + 1, target, record => do
      match target with
      | some target => store c n target (.input record)
      | none => remember fun m => m.setRecord record

def regexIn (c : Context) : Nat → Expr → Run Regex
  | 0, _ => throw (.stop .endless)
  | n + 1, e => do
      match e with
      | .regex r => return r
      | e => do regexText (← evalText c n e)

def subscript (c : Context) : Nat → List Expr → Run Table.Key
  | 0, _ => throw (.stop .endless)
  | n + 1, index => do
      match index with
      | [e] => do
          let v ← eval c n e
          return Table.keyOf (← memory).conversionFormat v
      | index => do
          let values ← evalAll c n index
          let m ← memory
          return ⟨m.subscriptSeparator.intercalate (values.map (Value.toText m.conversionFormat)), none⟩

def evalAll (c : Context) : Nat → List Expr → Run (List Value)
  | 0, _ => throw (.stop .endless)
  | _, [] => return []
  | n + 1, e :: es => do
      let v ← eval c n e
      let vs ← evalAll c n es
      return v :: vs

def store (c : Context) : Nat → Expr → Value → Run Unit
  | 0, _, _ => throw (.stop .endless)
  | n + 1, target, v => do
      match target with
      | .var x => setVar x v
      | .field e => do
          let i ← fieldIndex c n e
          remember fun m => m.setField i v
      | .item array index => do
          let key ← subscript c n index
          withTable array fun t => ((), t.set key v)
      | _ => return ()

/-- Calls a function of the program. Its parameters that are arrays are those of the caller. -/
def callFunction (c : Context) : Nat → String → List Expr → Run Value
  | 0, _, _ => throw (.stop .endless)
  | n + 1, name, args => do
      outside Exec.tick
      match c.functions[name]? with
      | none => return .unset
      | some d => do
          let cells ← evalCells c n name 0 args
          let m ← memory
          if m.depth ≥ deepestCall then giveUp "function call nesting too deep".toList
          -- The parameters that are not given are empty; those that are arrays are new.
          let missing := List.range' args.length (d.parameters.length - args.length)
          let (cells, tables) := missing.foldl (fun (acc : Array Cell × Array Table) i =>
            if c.arrayParameters.contains (name, i) then (acc.1.push (.table acc.2.size), acc.2.push {})
            else (acc.1.push (.value .unset), acc.2)) (cells.toArray, m.tables)
          remember fun m => { m with frame := cells, tables := tables, depth := m.depth + 1 }
          let flow ← execAll c n d.body
          remember fun after =>
            { after with frame := m.frame, tables := after.tables.extract 0 m.tables.size, depth := m.depth }
          match flow with
          | .returns v => return v
          | _ => return .unset

def evalCells (c : Context) : Nat → String → Nat → List Expr → Run (List Cell)
  | 0, _, _, _ => throw (.stop .endless)
  | _, _, _, [] => return []
  | n + 1, name, i, e :: es => do
      let cell ← (do
        if c.arrayParameters.contains (name, i) then
          match e with
          | .var v => return .table ((← memory).tableId v)
          | e => return .value (← eval c n e)
        else return .value (← eval c n e) : Run Cell)
      let cells ← evalCells c n name (i + 1) es
      return cell :: cells

def callBuiltIn (c : Context) : Nat → Function → List Expr → Run Value
  | 0, _, _ => throw (.stop .endless)
  | n + 1, f, args => do
      match f, args with
      | .length, [] => return .ofNat (← memory).record.length
      | .length, [.var v] => do
          let m ← memory
          let isTable := match v with
            | .shared i => (m.tableAt i).size != 0
            | .parameter i =>
                match m.frame[i]? with
                | some (.table _) => true
                | _ => false
            | .special _ => false
          if isTable then return .ofNat (m.tableAt (m.tableId v)).size
          else do
            let text ← textOf (← getVar v)
            return .ofNat text.length
      | .length, e :: _ => do
          let text ← evalText c n e
          return .ofNat text.length
      | .split, e :: .var array :: more => do
          let text ← evalText c n e
          let cut ← (match more with
            | .regex r :: _ => return .regex r
            | e :: _ => do
                let separator ← evalText c n e
                match fieldCutOf separator with
                | .ok cut => return cut
                | .error f => badRegex f separator
            | [] => do return (← memory).fieldCut : Run Separator)
          let parts := cut.split text
          withTable array fun _ => ((), Table.ofParts parts)
          return .ofNat parts.length
      | .sub, pattern :: template :: target => substitute c n false pattern template target
      | .gsub, pattern :: template :: target => substitute c n true pattern template target
      | .matches, [e, pattern] => do
          let text ← evalText c n e
          let r ← regexIn c n pattern
          let found := (r.laidOn text.toArray ⟨false, false⟩).span? 0
          let start : Int := (found.map fun (i, _) => ((i + 1 : Nat) : Int)).getD 0
          let length : Int := (found.map fun (i, j) => ((j - i : Nat) : Int)).getD (-1)
          setVar (.shared matchStartIndex) (.ofInt start)
          setVar (.shared matchLengthIndex) (.ofInt length)
          return .ofInt start
      | .close, [e] => do return .ofInt (← closeAll c (← evalText c n e))
      | .system, [e] => do
          let command ← evalText c n e
          flush
          let (status, signal) ← outside (c.caller.shell command)
          return .ofNat (match signal with
            | some s => 256 + s
            | none => status)
      | f, args => do
          let values ← evalAll c n args
          builtInValue f values

def substitute (c : Context) : Nat → Bool → Expr → Expr → List Expr → Run Value
  | 0, _, _, _, _ => throw (.stop .endless)
  | n + 1, all, pattern, template, target => do
      let r ← regexIn c n pattern
      let template ← evalText c n template
      let target := target.headD (.field (.num 0))
      let text ← evalText c n target
      let laid := r.laidOn text.toArray ⟨false, false⟩
      if !laid.succeeds then return .num 0
      let (out, count) := replaceFrom laid (replacementPieces template) all (text.length + 2) 0 0 none #[]
      if count ≠ 0 then store c n target (.str out.toList)
      return .ofNat count

def exec (c : Context) : Nat → Stmt → Run Flow
  | 0, _ => throw (.stop .endless)
  | n + 1, s => do
      match s with
      | .expr e => do
          let _ ← eval c n e
          return .goesOn
      | .print args sink => do
          let text ← (do
            if args.isEmpty then return (← memory).record
            else
              let values ← evalAll c n args
              let m ← memory
              return m.outputFieldSeparator.intercalate (values.map (Value.toText m.outputFormat)) : Run Octets)
          let ending := (← memory).outputRecordSeparator
          printTo c n sink (text ++ ending)
          return .goesOn
      | .printf args sink => do
          let values ← evalAll c n args
          let form ← textOf (values.headD .unset)
          match formatWith (← memory).conversionFormat form values.tail with
          | (text, none) => do
              printTo c n sink text
              return .goesOn
          | (text, some fault) => do
              printTo c n sink text
              let _ ← badFormat "printf" form fault
              return .goesOn
      | .cond test a b => do
          let v ← eval c n test
          if v.truth then execAll c n a else execAll c n b
      | .loop test body step testFirst => execLoop c n test body step testFirst
      | .each name array body => do
          let m ← memory
          let id := m.tableId array
          let keys := (m.tableAt id).keys
          remember fun m => m.setTable id (m.tableAt id).mixed
          execEach c n name body keys
      | .block body => execAll c n body
      | .next => throw .next
      | .nextFile => throw .nextFile
      | .exit e => do
          match e with
          | some e => do
              let v ← eval c n e
              remember fun m => { m with status := ((truncated v.toNum) % 256).toNat }
          | none => pure ()
          throw .exit
      | .breaks => return .breaks
      | .continues => return .continues
      | .returns e => do
          match e with
          | some e => return .returns (← eval c n e)
          | none => return .returns .unset
      | .delete array index => do
          let key ← subscript c n index
          withTable array fun t => ((), t.erase key)
          return .goesOn
      | .deleteAll array => do
          withTable array fun _ => ((), {})
          return .goesOn

def printTo (c : Context) : Nat → Sink → Octets → Run Unit
  | 0, _, _ => throw (.stop .endless)
  | n + 1, sink, text => do
      match sink with
      | .output => emit text
      | .file e => do
          let path ← evalText c n e
          emitTo path (openOutlet path false) text
      | .append e => do
          let path ← evalText c n e
          emitTo path (openOutlet path true) text
      | .pipe e => do
          let command ← evalText c n e
          let start : Run Outlet := do
            flush
            return .command []
          emitTo command start text

def execAll (c : Context) : Nat → List Stmt → Run Flow
  | 0, _ => throw (.stop .endless)
  | _, [] => return .goesOn
  | n + 1, s :: rest => do
      match ← exec c n s with
      | .goesOn => execAll c n rest
      | flow => return flow

def execLoop (c : Context) : Nat → Option Expr → List Stmt → List Stmt → Bool → Run Flow
  | 0, _, _, _, _ => throw (.stop .endless)
  | n + 1, test, body, step, testFirst => do
      outside Exec.tick
      let goes ← (match testFirst, test with
        | true, some e => do return (← eval c n e).truth
        | _, _ => return true : Run Bool)
      if !goes then return .goesOn
      match ← execAll c n body with
      | .breaks => return .goesOn
      | .returns v => return .returns v
      | _ => do
          let _ ← execAll c n step
          let goes ← (match testFirst, test with
            | false, some e => do return (← eval c n e).truth
            | _, _ => return true : Run Bool)
          if goes then execLoop c n test body step testFirst else return .goesOn

def execEach (c : Context) : Nat → Variable → List Stmt → List Octets → Run Flow
  | 0, _, _, _ => throw (.stop .endless)
  | _, _, _, [] => return .goesOn
  | n + 1, name, body, key :: keys => do
      setVar name (.str key)
      match ← execAll c n body with
      | .breaks => return .goesOn
      | .returns v => return .returns v
      | _ => execEach c n name body keys

end

end LintBridge.Shell.Awk
