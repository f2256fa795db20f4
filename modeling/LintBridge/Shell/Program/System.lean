import LintBridge.Shell.Builtin
import LintBridge.Shell.Calendar.Reader
import LintBridge.Shell.Program.Input

namespace LintBridge.Shell.Program

open Exec

/-- A time such as `1.5s`, in nanoseconds; none stands for a time without end. -/
def duration? (cs : Octets) : Option (Option Nat) :=
  let factor? := fun (unit : Octets) => match unit with
    | [] => some 1
    | ['s'] => some 1
    | ['m'] => some 60
    | ['h'] => some 3600
    | ['d'] => some 86400
    | _ => none
  let (x, used) := Real.readFront cs
  if used = 0 || x < 0 || x.isNaN then none
  else (factor? (cs.drop used)).map fun f =>
    if x.isInf then none
    else
      let seconds := x * Float.ofNat f
      if seconds > 1.0e15 then none
      else
        -- Decimal numbers keep all of their digits.
        let text := cs.take used
        let whole := (text.dropWhile (· = '+')).takeWhile Char.isDigit
        let rest := (text.dropWhile (· = '+')).drop whole.length
        match rest with
        | [] => some (Octets.digitsValue whole * f * 1000000000)
        | '.' :: part =>
            if part.all Char.isDigit then
              some (Octets.digitsValue (whole ++ Octets.padRight 9 '0' (part.take 9)) * f)
            else some (seconds * 1.0e9).toUInt64.toNat
        | _ => some (seconds * 1.0e9).toUInt64.toNat

def sleepProgram (who : Octets) (args : List Octets) : Exec Nat :=
  withOptions who 1 "" [] args fun o => do
    if o.operands.isEmpty then misuse who 1 "missing operand".toList
    else do
      let bad := o.operands.filter fun a => (duration? a).isNone
      if !bad.isEmpty then
        for a in bad do complain who ("invalid time interval ".toList ++ quotes a)
        write 2 (hint who)
        return 1
      match o.operands.mapM fun a => (duration? a).getD none with
      | some times => do
          sleep (times.foldl (· + ·) 0)
          return 0
      | none => throw .endless

def beginning : Int := 1700000000

def dateFormat (o : Options) : Octets :=
  let detail := fun (key : String) => (o.value? key).map String.ofList
  let text := if o.has "I" then
      match detail "I" with
      | some "seconds" => "%Y-%m-%dT%H:%M:%S+00:00"
      | some "minutes" => "%Y-%m-%dT%H:%M+00:00"
      | some "hours" => "%Y-%m-%dT%H+00:00"
      | some "ns" => "%Y-%m-%dT%H:%M:%S,%N+00:00"
      | _ => "%F"
    else if o.has "R" then "%a, %d %b %Y %T %z"
    else match detail "rfc" with
      | some "date" => "%F"
      | some "seconds" => "%F %T+00:00"
      | some "ns" => "%F %T.%N+00:00"
      | _ => "%a %b %e %H:%M:%S %Z %Y"
  text.toList

def date (who : Octets) (args : List Octets) : Exec Nat :=
  withOptions who 1 "d:f:I::r:Rs:u" [("date=", "d"), ("file=", "f"), ("utc", "u"), ("universal", "u"), ("iso-8601=?", "I"),
    ("rfc-email", "R"), ("rfc-2822", "R"), ("rfc-3339=", "rfc"), ("reference=", "r"), ("set=", "s")] args fun o => do
    let now := beginning + ((← get).world.now / 1000000000 : Nat)
    let shown : Except Octets Octets := match o.operands with
      | [] => .ok (dateFormat o)
      | ('+' :: format) :: _ => .ok format
      | a :: _ => .error a
    match shown with
    | .error a => do
        complain who ("invalid date ".toList ++ quotes a)
        return 1
    | .ok format => do
        let show' := fun (text : Octets) => do
          match Calendar.read? now text with
          | none => do
              complain who ("invalid date ".toList ++ quotes text)
              return false
          | some seconds => do
              write 1 (Calendar.format (Calendar.moment seconds) format ++ ['\n'])
              return true
        match o.value? "d", o.value? "f", o.value? "r" with
        | some text, _, _ => do return if ← show' text then 0 else 1
        | none, some path, _ => do
            match ← readOperand path with
            | .error e => do
                complain who (blamePath path e)
                return 1
            | .ok text => do
                let mut good := true
                for (line, _) in Octets.lines text do
                  if !(← show' line) then good := false
                return if good then 0 else 1
        | none, none, some path => do
            match (← get).world.files.find (← get).working (Octets.toBytes path) with
            | .error e => do
                complain who (blamePath path e)
                return 1
            | .ok _ => do
                write 1 (Calendar.format (Calendar.moment beginning) format ++ ['\n'])
                return 0
        | none, none, none => do
            write 1 (Calendar.format (Calendar.moment now) format ++ ['\n'])
            return 0

def identity (who : Octets) (args : List Octets) : Exec Nat :=
  withOptions who 1 "agGnruzZ" [("user", "u"), ("group", "g"), ("groups", "G"), ("name", "n"), ("real", "r"), ("zero", "z")] args fun o => do
    match o.operands.find? (· != "root".toList) with
    | some user => do
        complain who (quotes user ++ ": no such user".toList)
        return 1
    | none => do
        let text := if o.has "u" || o.has "g" || o.has "G" then (if o.has "n" then "root" else "0")
          else "uid=0(root) gid=0(root) groups=0(root)"
        write 1 (text.toList ++ ['\n'])
        return 0

def printLine (line : String) (who : Octets) (args : List Octets) : Exec Nat :=
  withOptions who 1 "" [("all", "all"), ("ignore=", "ignore")] args fun o => do
    match o.operands with
    | [] => do
        write 1 (line.toList ++ ['\n'])
        return 0
    | extra :: _ => misuse who 1 ("extra operand ".toList ++ quotes extra)

def logname (who : Octets) (_ : List Octets) : Exec Nat := do
  complain who "no login name".toList
  return 1

def uname (who : Octets) (args : List Octets) : Exec Nat :=
  withOptions who 1 "amnoprsv" [("all", "a"), ("kernel-name", "s"), ("nodename", "n"), ("kernel-release", "r"),
    ("kernel-version", "v"), ("machine", "m"), ("operating-system", "o")] args fun o => do
    match o.operands with
    | extra :: _ => misuse who 1 ("extra operand ".toList ++ quotes extra)
    | [] => do
        let parts := [("s", "Linux"), ("n", "localhost"), ("r", "6.1.0"), ("v", "#1 SMP"), ("m", "x86_64"), ("o", "GNU/Linux")]
        let chosen := parts.filter fun p => o.has "a" || o.has p.1
        let chosen := if chosen.isEmpty then [("s", "Linux")] else chosen
        write 1 (([' '] : Octets).intercalate (chosen.map (·.2.toList)) ++ ['\n'])
        return 0

def printenv (who : Octets) (args : List Octets) : Exec Nat :=
  withOptions who 2 "+0" [("null", "0")] args fun o => do
    let shown := Builtin.environment (← get)
    let ending := if o.has "0" then ['\x00'] else ['\n']
    if o.operands.isEmpty then
      write 1 (shown.flatMap fun (k, v) => k ++ '=' :: v ++ ending)
      return 0
    else do
      let values := o.operands.map fun name => shown.lookup name
      write 1 (values.flatMap fun v => match v with
        | some v => v ++ ending
        | none => [])
      return if values.all Option.isSome then 0 else 1

def tty (_ : Octets) (args : List Octets) : Exec Nat := do
  if !args.any fun a => a == ['-', 's'] || a == "--silent".toList || a == "--quiet".toList then
    write 1 "not a tty\n".toList
  return 1

def blockSize? (cs : Octets) : Option Nat :=
  (Octets.splitOn (· = 'x') cs).foldl (fun n part =>
    match n, part.reverse with
    | some n, 'c' :: ds => (Octets.nat? ds.reverse).map (n * ·)
    | some n, 'w' :: ds => (Octets.nat? ds.reverse).map fun k => n * k * 2
    | some n, _ => (size? part).map (n * ·)
    | none, _ => none) (some 1)

/-- Lets the bytes of each pair change places. What is done has its last byte first. -/
def swapPairs : Octets → Octets → Octets
  | a :: b :: cs, done => swapPairs cs (a :: b :: done)
  | cs, done => done.reverse ++ cs

def dd (who : Octets) (args : List Octets) : Exec Nat := do
  let keys := ["if", "of", "bs", "ibs", "obs", "count", "skip", "seek", "conv", "status", "iflag", "oflag", "cbs", "iseek", "oseek"]
  let split := args.map fun a => (String.ofList (a.takeWhile (· ≠ '=')), a.drop ((a.takeWhile (· ≠ '=')).length + 1), a)
  match split.find? fun (key, _, a) => !keys.contains key || !a.contains '=' with
  | some (_, _, a) => misuse who 1 ("unrecognized operand ".toList ++ quotes a)
  | none =>
  let operand := fun (key : String) => (split.reverse.find? (·.1 == key)).map (·.2.1)
  let bad := split.find? fun (key, value, _) =>
    ["bs", "ibs", "obs", "count", "skip", "seek"].contains key && (blockSize? value).isNone
  match bad with
  | some (_, value, _) => do
      complain who ("invalid number: ".toList ++ quotes value)
      return 1
  | none => do
  let number := fun (key : String) => (operand key).bind blockSize?
  let size := (number "bs" <|> number "ibs").getD 512
  let outSize := (number "bs" <|> number "obs").getD 512
  let inBytes := fun (flag : String) (n : Nat) (unit : Nat) =>
    if ((operand flag).map fun v => (Octets.splitOn (· = ',') v).contains "count_bytes".toList).getD false then n else n * unit
  let amount := (number "count").map fun n => inBytes "iflag" n size
  let skipped := ((number "skip" <|> number "iseek").getD 0) * size
  let sought := ((number "seek" <|> number "oseek").getD 0) * outSize
  let opened ← (match operand "if" with
    | some path => do
        match ← openRead path with
        | .ok id => return .ok id
        | .error e => return .error ("failed to open ".toList ++ quotes path ++ ": ".toList ++ e.plainText.toList)
    | none => do
        match (← get).fds.lookup 0 with
        | some id => return Except.ok id
        | none => return .error "failed to open 'standard input': Bad file descriptor".toList)
  match opened with
  | .error text => do
      complain who text
      return 1
  | .ok id => do
  let read ← withFd 0 id (match amount with
    | some n => readSome 0 (skipped + n)
    | none => readAll 0)
  match read with
  | .error e => do
      complain who ("error reading ".toList ++ quotes ((operand "if").getD "standard input".toList) ++ ": ".toList ++ e.plainText.toList)
      return 1
  | .ok text => do
      let text := text.drop skipped
      let conversions := ((operand "conv").map (Octets.splitOn (· = ','))).getD []
      let converted := conversions.foldl (fun text c => match String.ofList c with
        | "ucase" => text.map Char.toUpper
        | "lcase" => text.map Char.toLower
        | "swab" => swapPairs text []
        | _ => text) text
      let converted := if conversions.contains "sync".toList && converted.length % size ≠ 0 then
          converted ++ List.replicate (size - converted.length % size) '\x00' else converted
      let keeps := conversions.contains "notrunc".toList
      let written ← (match operand "of" with
        | none => do
            write 1 converted
            return none
        | some path => do
            match ← openWrite path (keeps || sought > 0) with
            | .error e => return some ("failed to open ".toList ++ quotes path ++ ": ".toList ++ e.plainText.toList)
            | .ok out => do
                match ← stream? out with
                | some (.file place _ true) => do
                    if !keeps then
                      modifyWorld fun w => match w.files.get? place with
                        | some (.file content runs) => { w with files := w.files.put place (.file (content.take sought) runs) }
                        | _ => w
                    setStream out (.file place sought false)
                | _ => pure ()
                withFd 9 out (write 9 converted)
                return none)
      match written with
      | some text => do
          complain who text
          return 1
      | none => do
          let status := (operand "status").map String.ofList
          if status != some "none" then
            let records := fun (size : Nat) (n : Nat) =>
              Octets.ofNat (n / size) ++ '+' :: (if n % size = 0 then ['0'] else ['1'])
            write 2 (records size text.length ++ " records in\n".toList ++ records outSize converted.length ++ " records out\n".toList)
            if status != some "noxfer" then
              write 2 (Octets.ofNat converted.length ++ (if converted.length = 1 then " byte" else " bytes").toList ++
                " copied, 0.0001 s, 1.0 MB/s\n".toList)
          return 0

end LintBridge.Shell.Program
