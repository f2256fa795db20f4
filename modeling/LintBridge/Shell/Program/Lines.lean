import LintBridge.Shell.Program.Input
import LintBridge.Shell.Regex.Search

namespace LintBridge.Shell.Program

open Exec

/-- A byte in visible form. Tabs and ends of lines stay. -/
def visibleByte (c : Char) : Octets :=
  let low := fun (n : Nat) =>
    if n < 32 then ['^', Char.ofNat (n + 64)] else if n = 127 then ['^', '?'] else [Char.ofNat n]
  if c = '\n' || c = '\t' then [c]
  else if c.toNat < 128 then low c.toNat
  else 'M' :: '-' :: low (c.toNat - 128)

def squeezeLines : Bool → List (Octets × Bool) → List (Octets × Bool)
  | _, [] => []
  | afterEmpty, (line, ended) :: ls =>
      let empty := line.isEmpty && ended
      if empty && afterEmpty then squeezeLines true ls else (line, ended) :: squeezeLines empty ls

def numberLines (all : Bool) : Nat → List (Octets × Bool) → List (Octets × Bool)
  | _, [] => []
  | n, (line, ended) :: ls =>
      if all || !line.isEmpty then
        (Octets.padLeft 6 ' ' (Octets.ofNat n) ++ '\t' :: line, ended) :: numberLines all (n + 1) ls
      else (line, ended) :: numberLines all n ls

def showEnd (o : Options) (line : Octets) (ended : Bool) : Octets :=
  let line := if ended && !o.has "v" && line.getLast? = some '\x0d' then line.dropLast ++ ['^', 'M'] else line
  if ended then line ++ ['$'] else line

def catText (o : Options) (text : Octets) : Octets :=
  let ls := Octets.lines text
  let ls := if o.has "s" then squeezeLines false ls else ls
  let ls := if o.has "v" then ls.map fun (l, e) => (l.flatMap visibleByte, e) else ls
  let ls := if o.has "T" then ls.map fun (l, e) => (l.flatMap fun c => if c = '\t' then ['^', 'I'] else [c], e) else ls
  let shown := if o.has "E" then ls.map fun (l, e) => (showEnd o l e, e) else ls
  let marks := if o.has "b" then numberLines false 1 ls else if o.has "n" then numberLines true 1 ls else []
  if marks.isEmpty then joinLines shown
  else joinLines (List.zipWith (fun (m : Octets × Bool) (pair : (Octets × Bool) × (Octets × Bool)) =>
    (m.1.take (m.1.length - pair.1.1.length) ++ pair.2.1, pair.2.2)) marks (ls.zip shown))

def spellOut (long : List (String × List String)) (o : Options) : Options :=
  { o with given := o.given.flatMap fun (key, value) =>
      match long.lookup key with
      | some keys => keys.map (·, value)
      | none => [(key, value)] }

def cat (who : Octets) (args : List Octets) : Exec Nat :=
  withOptions who 1 "AbeEnstTuv" [("show-all", "A"), ("number-nonblank", "b"), ("show-ends", "E"), ("number", "n"),
    ("squeeze-blank", "s"), ("show-tabs", "T"), ("show-nonprinting", "v")] args fun o => do
    let o := spellOut [("A", ["v", "E", "T"]), ("e", ["v", "E"]), ("t", ["v", "T"])] o
    if o.given.all (·.1 == "u") then filterBytes who o.operands id else filterLines who o.operands (catText o)

/-- Records from the last to the first. Between them stand separators, of which the last one before a place is found; it
belongs to the record before it or to the one after it. -/
def backwards (before : Bool) (last : Nat → Option (Nat × Nat)) (text : Array Char) : Nat → Nat → Nat → Bool → List Octets
  | 0, _, stop, _ => [(text.extract 0 stop).toList]
  | n + 1, limit, stop, first =>
      match last limit with
      | none => [(text.extract 0 stop).toList]
      | some (i, j) =>
          if before then (text.extract i stop).toList :: backwards before last text n i i false
          else if first && j = stop then backwards before last text n i j false
          else (text.extract j stop).toList :: backwards before last text n i j false

def lastBefore (separator : Octets) (text : Array Char) (limit : Nat) : Option (Nat × Nat) :=
  let k := separator.length
  ((List.range (limit + 1 - k)).reverse.find? fun i => (text.extract i (i + k)).toList == separator).map fun i => (i, i + k)

def lastMatchBefore (r : Regex) (text : Array Char) (limit : Nat) : Option (Nat × Nat) :=
  let laid := r.laidOn (text.extract 0 limit) {}
  (((List.range limit).reverse).findSome? laid.matchAt).map fun m => (m.start, m.stop)

def readWhole (path : Octets) : Exec (Except Tool.SystemError Octets) := do
  match ← openOperand path with
  | .error e => return .error e
  | .ok id => withFd 0 id do
      match ← streamOf 0 with
      | some (id, .input _ whole) => do
          setStream id (.input [] whole)
          return .ok whole
      | _ => readAll 0

def tac (who : Octets) (args : List Octets) : Exec Nat :=
  withOptions who 1 "brs:" [("before", "b"), ("regex", "r"), ("separator=", "s")] args fun o => do
    let separator := match o.value? "s" with
      | some [] => ['\x00']
      | some cs => cs
      | none => ['\n']
    let before := o.has "b"
    let found := if o.has "r" then Regex.parse .basic separator else .ok .empty
    match found with
    | .error f => do
        complain who f.message.toList
        return 1
    | .ok r => do
        let glue := fun (end' : Char) (item : Octets × Bool) => item.1 ++ (if item.2 then [end'] else [])
        let turned := fun (text : Octets) => match o.has "r", separator with
          | false, [c] =>
              if before then
                let parts := Octets.splitOn (· = c) text
                (parts.tail.reverse.flatMap (c :: ·)) ++ parts.headD []
              else (Octets.itemsEnding c text).reverse.flatMap (glue c)
          | false, cs =>
              let chars := text.toArray
              (backwards before (lastBefore cs chars) chars (chars.size + 1) chars.size chars.size true).flatten
          | true, _ =>
              let chars := text.toArray
              (backwards before (lastMatchBefore r chars) chars (chars.size + 1) chars.size chars.size true).flatten
        let mut good := true
        for path in sources o.operands do
          match ← readWhole path with
          | .ok text => write 1 (turned text)
          | .error e => do
              complain who ("failed to open ".toList ++ quotes path ++ " for reading: ".toList ++ e.plainText.toList)
              good := false
        return if good then 0 else 1

def rev (who : Octets) (args : List Octets) : Exec Nat :=
  withOptions who 1 "" [] args fun o => do
    let g ← gather who (fun path e => "cannot open ".toList ++ path ++ ": ".toList ++ e.plainText.toList)
      (sources o.operands)
    let f := fun text => joinLines ((Octets.lines text).map fun (l, e) => (l.reverse, e))
    match g.more with
    | none => do
        write 1 (f g.text)
        return if g.good then 0 else 1
    | some stop => do
        write 1 (f (wholeLines g.text))
        throw stop

structure Amount where
  bytes : Bool := false
  count : Nat := 10
  inverse : Bool := false

def takeItems (ending : Char) (n : Nat) (text : Octets) : Octets :=
  (((Octets.itemsEnding ending text).take n).map fun (item, ended) => if ended then item ++ [ending] else item).flatten

def itemCount (ending : Char) (text : Octets) : Nat := (Octets.itemsEnding ending text).length

def headText (ending : Char) (a : Amount) (text : Octets) : Octets :=
  match a.bytes, a.inverse with
  | true, false => text.take a.count
  | true, true => text.take (text.length - a.count)
  | false, false => takeItems ending a.count text
  | false, true => takeItems ending (itemCount ending text - a.count) text

def blockSize : Nat := 8192

/-- Writes the beginning of an input. What a file has beyond it stays for those who read next; of a pipe whole blocks are
gone. -/
def headInput (ending : Char) (a : Amount) : Exec (Except Tool.SystemError Unit) := do
  match ← streamOf 0 with
  | some (id, .input left whole) => do
      let out := headText ending a left
      setStream id (.input (left.drop out.length) whole)
      write 1 out
      return .ok ()
  | some (id, .pipe parts closes) =>
      if a.inverse || (a.bytes && closes.isSome) then
        match ← (if a.inverse then readAll 0 else readSome 0 a.count) with
        | .ok text => do
            write 1 (headText ending a text)
            return .ok ()
        | .error e => return .error e
      else do
        let text := parts.flatMap (·.2)
        let out := headText ending a text
        let enough := if a.bytes then out.length ≥ a.count else itemCount ending out ≥ a.count && out.getLast? = some ending
        let used := if a.bytes then out.length else (out.length + blockSize - 1) / blockSize * blockSize
        let (_, time, rest) := takeParts used 0 parts
        setStream id (.pipe rest closes)
        waitUntil time
        write 1 out
        if enough || a.count = 0 then return .ok ()
        else match closes with
          | some t => do
              waitUntil t
              return .ok ()
          | none => throw (.starved id)
  | some (_, .zeros) =>
      if a.bytes && !a.inverse then do
        write 1 (List.replicate a.count '\x00')
        return .ok ()
      else throw .endless
  | _ =>
      match ← readAll 0 with
      | .ok text => do
          write 1 (headText ending a text)
          return .ok ()
      | .error e => return .error e

def oldCount (args : List Octets) : List Octets :=
  match args with
  | ('-' :: c :: cs) :: rest =>
      if c.isDigit then
        let ds := (c :: cs).takeWhile Char.isDigit
        let letters := (c :: cs).drop ds.length
        let unit := if letters.contains 'c' then 'c' else 'n'
        let others := letters.filter fun c => c ≠ 'c' && c ≠ 'l'
        (['-', unit] ++ ds) :: (if others.isEmpty then rest else ('-' :: others) :: rest)
      else args
  | args => args

/-- The old way to say how much of the end is shown: a sign, a count, a unit, and whether to wait for more. It holds
where at most one file comes after it. -/
def oldAmount? (arg : Octets) : Option (List Octets) :=
  match arg with
  | sign :: cs =>
      let ds := cs.takeWhile Char.isDigit
      let letters := cs.drop ds.length
      let (unit, rest) := match letters with
        | 'b' :: rest => ('b', rest)
        | 'c' :: rest => ('c', rest)
        | 'l' :: rest => ('l', rest)
        | rest => ('l', rest)
      let plain := sign = '-' && (cs.isEmpty || cs == ['c'] || cs == ['f'])
      if (sign = '+' || sign = '-') && !plain && (rest.isEmpty || rest == ['f']) then
        let count := ((Octets.nat? ds).getD 10) * (if unit = 'b' then 512 else 1)
        some ((['-', if unit = 'l' then 'n' else 'c'] ++ (if sign = '+' then ['+'] else []) ++ Octets.ofNat count) ::
          (if rest.isEmpty then [] else [['-', 'f']]))
      else none
  | [] => none

def oldTail (args : List Octets) : Except Octets (List Octets) :=
  let stray := fun (arg : Octets) => match arg with
    | '-' :: c :: _ => if c.isDigit then .error [c] else .ok args
    | _ => .ok args
  match args with
  | [arg] => match oldAmount? arg with
      | some new => .ok new
      | none => stray arg
  | [arg, file] =>
      if file.head? = some '-' && file.length > 1 then stray arg
      else match oldAmount? arg with
        | some new => .ok (new ++ [file])
        | none => stray arg
  | arg :: _ => stray arg
  | [] => .ok []

def title (first : Bool) (path : Octets) : Octets :=
  (if first then [] else ['\n']) ++ "==> ".toList ++ (if path == ['-'] then "standard input".toList else path) ++
    " <==\n".toList

def showParts (who : Octets) (titles : Bool) (part : Exec (Except Tool.SystemError Unit)) : List Octets → Bool → Exec Bool
  | [], _ => return true
  | path :: paths, first => do
      let opened ← openOperand path
      let good ← (match opened with
        | .error e => do
            complain who (blameOpen path e)
            return false
        | .ok id => do
            if titles then write 1 (title first path)
            match ← withFd 0 id part with
            | .ok _ => return true
            | .error e => do
                complain who (blameOpen (if path == ['-'] then "standard input".toList else path) e)
                return false)
      let rest ← showParts who titles part paths (first && opened.toOption.isNone)
      return good && rest

def head (who : Octets) (args : List Octets) : Exec Nat :=
  withOptions who 1 "c:n:qvz" [("bytes=", "c"), ("lines=", "n"), ("quiet", "q"), ("silent", "q"), ("verbose", "v"),
    ("zero-terminated", "z")] (oldCount args) fun o => do
    let amounts := o.given.filterMap fun (key, value) =>
      if key == "n" || key == "c" then
        let (inverse, digits) := match value with
          | '-' :: ds => (true, ds)
          | '+' :: ds => (false, ds)
          | ds => (false, ds)
        some (key, value, (size? digits).map fun n => (⟨key == "c", n, inverse⟩ : Amount))
      else none
    match amounts.find? fun a => a.2.2.isNone with
    | some (key, value, _) => do
        complain who ("invalid number of ".toList ++ (if key == "c" then "bytes" else "lines").toList ++ ": ".toList ++
          quotes value)
        return 1
    | none => do
        let amount := ((amounts.getLast?).bind (·.2.2)).getD {}
        let ending := if o.has "z" then '\x00' else '\n'
        let shows := (o.given.filter fun g => g.1 == "q" || g.1 == "v").getLast?.map (·.1)
        let titles := match shows with
          | some key => key == "v"
          | none => o.operands.length > 1
        let good ← showParts who titles (headInput ending amount) (sources o.operands) true
        return if good then 0 else 1

def tailText (ending : Char) (a : Amount) (text : Octets) : Octets :=
  if a.bytes then text.drop (if a.inverse then a.count - 1 else text.length - a.count)
  else
    let items := Octets.itemsEnding ending text
    let kept := items.drop (if a.inverse then a.count - 1 else items.length - a.count)
    (kept.map fun (item, ended) => if ended then item ++ [ending] else item).flatten

def tail (who : Octets) (args : List Octets) : Exec Nat := do
  match oldTail args with
  | .error stray => do
      complain who ("option used in invalid context -- ".toList ++ stray)
      return 1
  | .ok args =>
  withOptions who 1 "c:n:fFqvzs:" [("bytes=", "c"), ("lines=", "n"), ("follow=?", "f"), ("quiet", "q"), ("silent", "q"),
    ("verbose", "v"), ("zero-terminated", "z"), ("pid=", "pid"), ("sleep-interval=", "s"), ("retry", "retry")]
    args fun o => do
    let amounts := o.given.filterMap fun (key, value) =>
      if key == "n" || key == "c" then
        let (inverse, digits) := match value with
          | '+' :: ds => (true, ds)
          | '-' :: ds => (false, ds)
          | ds => (false, ds)
        some (key, value, (size? digits).map fun n => (⟨key == "c", n, inverse⟩ : Amount))
      else none
    match amounts.find? fun a => a.2.2.isNone with
    | some (key, value, _) => do
        complain who ("invalid number of ".toList ++ (if key == "c" then "bytes" else "lines").toList ++ ": ".toList ++
          quotes value)
        return 1
    | none => do
        let amount := ((amounts.getLast?).bind (·.2.2)).getD {}
        let ending := if o.has "z" then '\x00' else '\n'
        let shows := (o.given.filter fun g => g.1 == "q" || g.1 == "v").getLast?.map (·.1)
        let titles := match shows with
          | some key => key == "v"
          | none => o.operands.length > 1
        let part : Exec (Except Tool.SystemError Unit) := do
          let seekable := match ← streamOf 0 with
            | some (_, .input _ _) => true
            | _ => false
          match ← readAll 0 with
          | .ok text => do
              write 1 (tailText ending amount text)
              if seekable && (o.has "f" || o.has "F") then throw .endless
              return .ok ()
          | .error e => return .error e
        let good ← showParts who titles part (sources o.operands) true
        return if good then 0 else 1

structure Counts where
  lines : Nat := 0
  words : Nat := 0
  bytes : Nat := 0
  longest : Nat := 0

def isSpace (c : Char) : Bool := ('\t' ≤ c && c ≤ '\x0d') || c = ' '

def isPrint (c : Char) : Bool := ' ' ≤ c && c ≤ '~'

structure Counting where
  counts : Counts := {}
  inWord : Bool := false
  column : Nat := 0

def Counting.step (s : Counting) (c : Char) : Counting :=
  let counts := { s.counts with bytes := s.counts.bytes + 1 }
  let ended := { counts with words := if s.inWord then counts.words + 1 else counts.words }
  if c = '\n' || c = '\x0d' || c = '\x0c' then
    ⟨{ ended with lines := if c = '\n' then ended.lines + 1 else ended.lines,
                  longest := max ended.longest s.column }, false, 0⟩
  else if c = '\t' then ⟨ended, false, s.column + 8 - s.column % 8⟩
  else if c = ' ' then ⟨ended, false, s.column + 1⟩
  else if c = '\x0b' then ⟨ended, false, s.column⟩
  else if isPrint c then ⟨counts, true, s.column + 1⟩
  else ⟨counts, s.inWord, s.column⟩

def countText (text : Octets) : Counts :=
  let s := text.foldl Counting.step {}
  { s.counts with words := if s.inWord then s.counts.words + 1 else s.counts.words, longest := max s.counts.longest s.column }

def selectCounts (o : Options) (c : Counts) : List Nat :=
  if o.given.any fun g => ["l", "w", "m", "c", "L"].contains g.1 then
    (if o.has "l" then [c.lines] else []) ++ (if o.has "w" then [c.words] else []) ++
      (if o.has "m" then [c.bytes] else []) ++ (if o.has "c" then [c.bytes] else []) ++
      (if o.has "L" then [c.longest] else [])
  else [c.lines, c.words, c.bytes]

def sizeOfOperand (path : Octets) : Exec (Option Nat) := do
  match ← openOperand path with
  | .error _ => return none
  | .ok id =>
      match ← stream? id with
      | some (.input _ whole) => return some whole.length
      | _ => return none

def wcRow (width : Nat) (o : Options) (name : Option Octets) (c : Counts) : Octets :=
  ([' '] : Octets).intercalate ((selectCounts o c).map fun n => Octets.padLeft width ' ' (Octets.ofNat n)) ++
    (match name with
      | some name => ' ' :: name
      | none => []) ++ ['\n']

def wc (who : Octets) (args : List Octets) : Exec Nat :=
  withOptions who 1 "clLmw" [("bytes", "c"), ("chars", "m"), ("lines", "l"), ("words", "w"), ("max-line-length", "L"),
    ("total=", "total"), ("files0-from=", "files0")] args fun o => do
    let paths := sources o.operands
    let named := !o.operands.isEmpty
    let sizes ← paths.mapM sizeOfOperand
    let exists' ← paths.mapM fun path => do return (← openOperand path).toOption.isSome
    let lone := (selectCounts o {}).length = 1 && paths.length = 1
    let first := (exists'.head?).getD true
    let total := (sizes.filterMap id).foldl (· + ·) 0
    let odd := (sizes.zip exists').any fun (size, there) => size.isNone && there
    let width := if lone || !first then 1
      else max (Octets.ofNat total).length (if odd then 7 else 1)
    let counted ← paths.mapM fun path => do
      match ← readOperand path with
      | .ok text => do
          let c := countText text
          write 1 (wcRow width o (if named then some path else none) c)
          return (c, true)
      | .error e => do
          complain who (blamePath path e)
          if e = .code 21 then write 1 (wcRow width o (if named then some path else none) {})
          return ({}, false)
    if paths.length > 1 then
      let sum := counted.foldl (fun (acc : Counts) entry =>
        let c := entry.1
        ⟨acc.lines + c.lines, acc.words + c.words, acc.bytes + c.bytes, max acc.longest c.longest⟩) {}
      write 1 (wcRow width o (some "total".toList) sum)
    return if counted.all (·.2) then 0 else 1

inductive Numbered where
  | all
  | filled
  | nothing
  | matching (r : Regex)

def Numbered.read? : Octets → Option Numbered
  | ['a'] => some .all
  | ['t'] => some .filled
  | ['n'] => some .nothing
  | 'p' :: r => (Regex.parse .basic r).toOption.map .matching
  | _ => none

structure Numbering where
  header : Numbered := .nothing
  body : Numbered := .filled
  footer : Numbered := .nothing
  first : Int := 1
  step : Int := 1
  join : Nat := 1
  separator : Octets := ['\t']
  width : Nat := 6
  format : Octets := ['r', 'n']
  delimiter : Octets := ['\\', ':']
  keeps : Bool := false

def Numbering.number (s : Numbering) (n : Int) : Octets :=
  let text := Octets.ofInt n
  let shown :=
    if s.format == ['l', 'n'] then Octets.padRight s.width ' ' text
    else if s.format == ['r', 'z'] then
      if n < 0 then '-' :: Octets.padLeft (s.width - 1) '0' (Octets.ofNat n.natAbs) else Octets.padLeft s.width '0' text
    else Octets.padLeft s.width ' ' text
  shown ++ s.separator

def Numbering.lines (s : Numbering) : Numbered → Int → Nat → List Octets → List Octets
  | _, _, _, [] => []
  | now, n, empties, line :: ls =>
      let section? :=
        if s.delimiter.isEmpty then none
        else if line == s.delimiter ++ s.delimiter ++ s.delimiter then some s.header
        else if line == s.delimiter ++ s.delimiter then some s.body
        else if line == s.delimiter then some s.footer
        else none
      match section? with
      | some next => [] :: s.lines next (if s.keeps then n else s.first) empties ls
      | none =>
          let empties := if line.isEmpty then empties + 1 else 0
          let counts := match now with
            | .all => s.join ≤ 1 || !line.isEmpty || empties = s.join
            | .filled => !line.isEmpty
            | .nothing => false
            | .matching r => r.isIn {} line
          if counts then (s.number n ++ line) :: s.lines now (n + s.step) 0 ls
          else (List.replicate (s.width + s.separator.length) ' ' ++ line) :: s.lines now n empties ls

def Numbering.fault? (key : String) (value : Octets) : Option Octets :=
  let check := fun (what : String) (least : Int) =>
    let text := "invalid ".toList ++ what.toList ++ ": ".toList ++ quotes value
    match Octets.int? value with
    | none => some text
    | some n =>
        if n < -9223372036854775808 || 9223372036854775807 < n then
          some (text ++ ": Value too large for defined data type".toList)
        else if n < least then some (text ++ ": Numerical result out of range".toList)
        else none
  match key with
  | "v" => check "starting line number" (-9223372036854775808)
  | "i" => check "line number increment" (-9223372036854775808)
  | "l" => check "line number of blank lines" 1
  | "w" => check "line number field width" 1
  | _ => none

def nl (who : Octets) (args : List Octets) : Exec Nat :=
  withOptions who 1 "b:d:f:h:i:l:n:ps:v:w:" [("body-numbering=", "b"), ("section-delimiter=", "d"), ("footer-numbering=", "f"),
    ("header-numbering=", "h"), ("line-increment=", "i"), ("join-blank-lines=", "l"), ("number-format=", "n"),
    ("no-renumber", "p"), ("number-separator=", "s"), ("starting-line-number=", "v"), ("number-width=", "w")] args fun o => do
    let style := fun (key : String) (standard : Numbered) => match o.value? key with
      | some v => Numbered.read? v
      | none => some standard
    match style "h" .nothing, style "b" .filled, style "f" .nothing with
    | some header, some body, some footer =>
        let int := fun (key : String) (standard : Int) => ((o.value? key).bind Octets.int?).getD standard
        match o.given.findSome? fun (key, value) => Numbering.fault? key value with
        | some fault => do
            complain who fault
            return 1
        | none =>
        let delimiter := match o.value? "d" with
          | some [c] => [c, ':']
          | some d => d
          | none => ['\\', ':']
        let s : Numbering := {
          header := header, body := body, footer := footer, first := int "v" 1, step := int "i" 1,
          join := (int "l" 1).toNat, separator := (o.value? "s").getD ['\t'], width := (int "w" 6).toNat,
          format := (o.value? "n").getD ['r', 'n'], delimiter := delimiter, keeps := o.has "p" }
        if !(["ln", "rn", "rz"].contains (String.ofList s.format)) then
          misuse who 1 ("invalid line numbering format: ".toList ++ quotes s.format)
        else filterLines who o.operands fun text =>
          Octets.unlines (s.lines s.body s.first 0 ((Octets.lines text).map (·.1)))
    | _, _, _ =>
        let bad := (o.given.find? fun g => ["b", "h", "f"].contains g.1 && (Numbered.read? g.2).isNone)
        let kind := match bad.map (·.1) with
          | some "h" => "header"
          | some "f" => "footer"
          | _ => "body"
        misuse who 1 ("invalid ".toList ++ kind.toList ++ " numbering style: ".toList ++ quotes ((bad.map (·.2)).getD []))

def isBlank (c : Char) : Bool := c = ' ' || c = '\t'

def columnAfter (bytes : Bool) (column : Nat) (c : Char) : Nat :=
  if bytes then column + 1
  else if c = '\x08' then column - 1
  else if c = '\x0d' then 0
  else if c = '\t' then column + 8 - column % 8
  else column + 1

/-- Folds a line into parts. The part under way comes with its last character first. -/
def foldLine (bytes spaces : Bool) (width : Nat) : Nat → Nat → Octets → List Octets → Octets → List Octets
  | 0, _, part, done, cs => ((part.reverse ++ cs) :: done).reverse
  | _, _, part, done, [] => (part.reverse :: done).reverse
  | n + 1, column, part, done, c :: cs =>
      let after := columnAfter bytes column c
      if after ≤ width || part.isEmpty then foldLine bytes spaces width n after (c :: part) done cs
      else
        let tail := part.takeWhile fun c => !isBlank c
        if spaces && tail.length < part.length then
          let kept := tail.reverse
          let column := kept.foldl (columnAfter bytes) 0
          foldLine bytes spaces width n column tail ((part.drop tail.length).reverse :: done) (c :: cs)
        else foldLine bytes spaces width n 0 [] (part.reverse :: done) (c :: cs)

def foldText (bytes spaces : Bool) (width : Nat) (text : Octets) : Octets :=
  joinLines ((Octets.lines text).map fun (line, ended) =>
    ((['\n'] : Octets).intercalate (foldLine bytes spaces width (3 * line.length + 3) 0 [] [] line), ended))

def oldNumber (letter : Char) (args : List Octets) : List Octets :=
  args.map fun
    | '-' :: c :: cs => if (c :: cs).all fun d => d.isDigit || d = ',' then '-' :: letter :: c :: cs else '-' :: c :: cs
    | arg => arg

def fold (who : Octets) (args : List Octets) : Exec Nat :=
  withOptions who 1 "bsw:" [("bytes", "b"), ("spaces", "s"), ("width=", "w")] (oldNumber 'w' args) fun o => do
    let width := o.value? "w"
    match (width.map Octets.nat?).getD (some 80) with
    | some (w + 1) => filterLines who o.operands (foldText (o.has "b") (o.has "s") (w + 1))
    | bad => do
        complain who ("invalid number of columns: ".toList ++ quotes (width.getD []) ++
          (if bad = some 0 then ": Numerical result out of range".toList else []))
        return 1

structure Tabs where
  places : List Nat := []
  multiple : Option Nat := none
  step : Option Nat := none

inductive Tabs.Fault where
  | invalid (text : Octets)
  | late (sign : Char) (text : Octets)
  | onlyLast (sign : Char)
  | zero
  | descending
  | both

def Tabs.Fault.message : Tabs.Fault → Octets
  | .invalid text => "tab size contains invalid character(s): ".toList ++ quotes text
  | .late sign text => quotes [sign] ++ " specifier not at start of number: ".toList ++ quotes text
  | .onlyLast sign => quotes [sign] ++ " specifier only allowed with the last value".toList
  | .zero => "tab size cannot be 0".toList
  | .descending => "tab sizes must be ascending".toList
  | .both => "'/' specifier is mutually exclusive with '+'".toList

def Tabs.add (t : Tabs) (sign : Option Char) : Option Nat → Except Tabs.Fault Tabs
  | none => .ok t
  | some n =>
      match sign with
      | none => .ok { t with places := t.places ++ [n] }
      | some '/' => if t.multiple.isSome then .error (.onlyLast '/') else .ok { t with multiple := some n }
      | some _ => if t.step.isSome then .error (.onlyLast '+') else .ok { t with step := some n }

def Tabs.readFrom (t : Tabs) (sign : Option Char) (number : Option Nat) : Octets → Except Tabs.Fault Tabs
  | [] => t.add sign number
  | c :: cs =>
      if c = ',' || c = ' ' || c = '\t' then do (← t.add sign number).readFrom sign none cs
      else if c = '/' || c = '+' then
        if number.isSome then .error (.late c (c :: cs)) else t.readFrom (some c) none cs
      else if c.isDigit then t.readFrom sign (some (number.getD 0 * 10 + (c.toNat - '0'.toNat))) cs
      else .error (.invalid (c :: cs))

def Tabs.isAscending : List Nat → Bool
  | a :: b :: ns => a < b && isAscending (b :: ns)
  | _ => true

def Tabs.read (lists : List Octets) : Except Tabs.Fault Tabs := do
  let t ← lists.foldlM (fun (t : Tabs) list => t.readFrom none none list) {}
  if t.places.contains 0 then throw .zero
  if !Tabs.isAscending t.places then throw .descending
  if t.multiple.isSome && t.step.isSome then throw .both
  let positive := fun (n : Option Nat) => n.filter (0 < ·)
  match t.places, positive t.multiple, positive t.step with
  | [], some n, _ => return { multiple := some n }
  | [], none, some n => return { multiple := some n }
  | [], none, none => return { multiple := some 8 }
  | [n], none, none => return { multiple := some n }
  | places, multiple, step => return ⟨places, multiple, step⟩

/-- The next place after a column; none after the last of a list. -/
def Tabs.next? (t : Tabs) (column : Nat) : Option Nat :=
  match t.places.find? (column < ·) with
  | some place => some place
  | none =>
      match t.multiple, t.step with
      | some n, _ => some (column + n - column % n)
      | none, some n => some (column + n - (column - t.places.getLastD 0) % n)
      | none, none => none

def expandLine (tabs : Tabs) (initial : Bool) : Nat → Bool → Octets → Octets
  | _, _, [] => []
  | column, active, c :: cs =>
      if !active then c :: cs
      else if c = '\t' then
        let next := (tabs.next? column).getD (column + 1)
        List.replicate (next - column) ' ' ++ expandLine tabs initial next active cs
      else if c = '\x08' then c :: expandLine tabs initial (column - 1) (active && !initial) cs
      else c :: expandLine tabs initial (column + 1) (active && (!initial || c = ' ')) cs

def expandTabs (who : Octets) (args : List Octets) : Exec Nat :=
  withOptions who 1 "it:" [("initial", "i"), ("tabs=", "t")] (oldNumber 't' args) fun o => do
    match Tabs.read (o.values "t") with
    | .ok tabs =>
        filterLines who o.operands fun text => joinLines ((Octets.lines text).map fun (l, e) => (expandLine tabs (o.has "i") 0 true l, e))
    | .error fault => do
        complain who fault.message
        return 1

structure Unexpanding where
  out : Octets := []
  column : Nat := 0
  pending : Octets := []
  oneBefore : Bool := false
  afterBlank : Bool := true
  active : Bool := true

def Unexpanding.emit (s : Unexpanding) (c : Char) : Unexpanding :=
  let pending := if s.pending.length > 1 && s.oneBefore then '\t' :: s.pending.tail else s.pending
  { s with out := c :: (pending.reverse ++ s.out), pending := [], oneBefore := s.oneBefore && pending.isEmpty }

def Unexpanding.step (tabs : Tabs) (whole : Bool) (s : Unexpanding) (c : Char) : Unexpanding :=
  if !s.active then { s with out := c :: s.out }
  else if isBlank c then
    match tabs.next? s.column with
    | none => { (s.emit c) with active := false }
    | some next =>
        let stay := fun (s : Unexpanding) =>
          let s := s.emit '\t'
          { s with afterBlank := true }
        if c = '\t' then
          let pending := if s.pending.isEmpty then [] else '\t' :: s.pending.tail
          stay { s with column := next, pending := pending.take (if s.oneBefore then 1 else 0) }
        else
          let column := s.column + 1
          if s.afterBlank && column = next then
            stay { s with column := column, pending := if s.oneBefore then ['\t'] else [] }
          else { s with column := column, pending := s.pending ++ [c], oneBefore := s.oneBefore || column = next,
                        afterBlank := true }
  else
    let column := if c = '\x08' then s.column - 1 else s.column + 1
    let s := { s with column := column }.emit c
    { s with afterBlank := false, active := whole }

def unexpandLine (tabs : Tabs) (whole : Bool) (line : Octets) : Octets :=
  let s := line.foldl (Unexpanding.step tabs whole) {}
  let pending := if s.pending.length > 1 && s.oneBefore then '\t' :: s.pending.tail else s.pending
  s.out.reverse ++ pending

def unexpandTabs (who : Octets) (args : List Octets) : Exec Nat :=
  withOptions who 1 "at:" [("all", "a"), ("tabs=", "t"), ("first-only", "first")] (oldNumber 't' args) fun o => do
    match Tabs.read (o.values "t") with
    | .ok tabs =>
        let whole := (o.has "a" || o.has "t") && !o.has "first"
        filterLines who o.operands fun text =>
          joinLines ((Octets.lines text).map fun (l, e) => (unexpandLine tabs whole l, e))
    | .error fault => do
        complain who fault.message
        return 1

/-- Opens files for writing; those that cannot be are complained of. -/
def openOutputs (who : Octets) (append : Bool) : List Octets → Exec (List Nat × Bool)
  | [] => return ([], true)
  | path :: paths => do
      let opened ← (if path == ['-'] then do
          return (((← get).fds.lookup 1).map Except.ok).getD (.error (.code 9))
        else openWrite path append)
      let (ids, good) ← openOutputs who append paths
      match opened with
      | .ok id => return (id :: ids, good)
      | .error e => do
          complain who (blamePath path e)
          return (ids, false)

def tee (who : Octets) (args : List Octets) : Exec Nat :=
  withOptions who 1 "aip" [("append", "a"), ("ignore-interrupts", "i"), ("output-error=?", "p")] args fun o => do
    let (ids, good) ← openOutputs who (o.has "a") o.operands
    match ← readReady 0 with
    | .error e => do
        complain who ("read error: ".toList ++ e.plainText.toList)
        return 1
    | .ok (text, closed) => do
        write 1 text
        for id in ids do withFd 9 id (write 9 text)
        if closed then return if good then 0 else 1 else starve 0

end LintBridge.Shell.Program
