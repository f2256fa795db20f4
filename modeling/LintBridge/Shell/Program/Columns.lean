import LintBridge.Shell.Program.Input

namespace LintBridge.Shell.Program

open Exec

structure Span where
  low : Nat
  high : Option Nat
  deriving DecidableEq, Repr

namespace Span

def holds (r : Span) (i : Nat) : Bool := r.low ≤ i && r.high.all (i ≤ ·)

inductive Fault where
  | zero
  | decreasing
  | noEnd
  | malformed
  | invalid (text : Octets)
  | tooLarge (text : Octets)
  deriving DecidableEq, Repr

def largest : Nat := 18446744073709551614

/-- A place in a list. What follows its digits is to blame if it is no number. -/
def place (text : Octets) : Except Fault Nat :=
  let digits := text.takeWhile Char.isDigit
  if digits.length < text.length then .error (.invalid (text.drop digits.length))
  else
    let n := Octets.digitsValue digits
    if largest < n then .error (.tooLarge text) else .ok n

def read (text : Octets) : Except Fault Span := do
  let first := text.takeWhile (· ≠ '-')
  let low ← place first
  match text.drop first.length with
  | [] => if low = 0 then .error .zero else return ⟨low, some low⟩
  | _ :: last =>
      if first.isEmpty && last.isEmpty then .error .noEnd
      else if !first.isEmpty && low = 0 then .error .zero
      else
        let low := if first.isEmpty then 1 else low
        if last.isEmpty then return ⟨low, none⟩
        else if (last.dropWhile Char.isDigit).head? = some '-' then .error .malformed
        else
          let high ← place last
          if high < low then .error .decreasing else return ⟨low, some high⟩

def readAll (text : Octets) : Except Fault (List Span) :=
  (Octets.splitOn (fun c => c = ',' || c = ' ' || c = '\t') text).mapM read

/-- Joins ranges that have places in common. They come in order. -/
def merge : List Span → List Span
  | a :: b :: rs =>
      if a.high.all (b.low ≤ ·) then
        let high := a.high.bind fun x => b.high.map fun y => max x y
        merge (⟨a.low, high⟩ :: rs)
      else a :: merge (b :: rs)
  | rs => rs
termination_by rs => rs.length

def inOrder (rs : List Span) : List Span := merge (rs.mergeSort fun a b => a.low ≤ b.low)

def outside : Nat → List Span → List Span
  | next, [] => [⟨next, none⟩]
  | next, r :: rs =>
      let before := if next < r.low then [⟨next, some (r.low - 1)⟩] else []
      match r.high with
      | none => before
      | some high => before ++ outside (high + 1) rs

end Span

def cutFault (fields : Bool) : Span.Fault → Octets
  | .zero => (if fields then "fields are numbered from 1" else "byte/character positions are numbered from 1").toList
  | .decreasing => "invalid decreasing range".toList
  | .noEnd => "invalid range with no endpoint: -".toList
  | .malformed => (if fields then "invalid field range" else "invalid byte or character range").toList
  | .invalid text =>
      (if fields then "invalid field value " else "invalid byte/character position ").toList ++ quotes text
  | .tooLarge text =>
      (if fields then "field number " else "byte/character offset ").toList ++ quotes text ++ " is too large".toList

def cutBytes (spans : List Span) (between : Octets) (line : Octets) : Octets :=
  let part := fun (r : Span) =>
    let from' := line.drop (r.low - 1)
    match r.high with
    | some high => from'.take (high + 1 - r.low)
    | none => from'
  between.intercalate ((spans.map part).filter (!·.isEmpty))

/-- The fields of a line that are in ranges; none if the line is to be left out. -/
def cutFields (spans : List Span) (delimiter : Char) (between : Octets) (only : Bool) (line : Octets) : Option Octets :=
  if !line.contains delimiter then if only then none else some line
  else
    let fields := (Octets.splitOn (· = delimiter) line).zipIdx
    some (between.intercalate ((fields.filter fun (_, i) => spans.any (·.holds (i + 1))).map (·.1)))

def cut (who : Octets) (args : List Octets) : Exec Nat :=
  withOptions who 1 "b:c:d:f:nsz" [("bytes=", "b"), ("characters=", "c"), ("fields=", "f"), ("delimiter=", "d"),
    ("only-delimited", "s"), ("output-delimiter=", "output"), ("complement", "complement"), ("zero-terminated", "z")]
    args fun o => do
    let lists := o.given.filter fun g => ["b", "c", "f"].contains g.1
    let fields := lists.any (·.1 == "f")
    let ending := if o.has "z" then '\x00' else '\n'
    match lists with
    | [] => misuse who 1 "you must specify a list of bytes, characters, or fields".toList
    | _ :: _ :: _ => misuse who 1 "only one list may be specified".toList
    | [(_, list)] =>
        if (o.values "d").any fun d => d.length > 1 then misuse who 1 "the delimiter must be a single character".toList
        else if o.has "d" && !fields then
          misuse who 1 "an input delimiter may be specified only when operating on fields".toList
        else if o.has "s" && !fields then
          misuse who 1 "suppressing non-delimited lines makes sense\n\tonly when operating on fields".toList
        else match Span.readAll list with
          | .error e => misuse who 1 (cutFault fields e)
          | .ok spans => do
              let spans := Span.inOrder spans
              let spans := if o.has "complement" then Span.outside 1 spans else spans
              let delimiter := match o.value? "d" with
                | some (c :: _) => c
                | some [] => '\x00'
                | none => '\t'
              let between := (o.value? "output").getD (if fields then [delimiter] else [])
              let cutLine := if fields then cutFields spans delimiter between (o.has "s")
                else fun line => some (cutBytes spans between line)
              filterLines who o.operands fun text =>
                ((Octets.itemsEnding ending text).filterMap fun (line, _) => cutLine line).flatMap (· ++ [ending])

/-- The delimiters that are taken in turn. An empty one is possible. -/
def readDelimiters : Octets → Option (List Octets)
  | [] => some []
  | '\\' :: c :: cs =>
      let d := match c with
        | 'n' => ['\n']
        | 't' => ['\t']
        | '0' => []
        | 'b' => ['\x08']
        | 'f' => ['\x0c']
        | 'r' => ['\x0d']
        | 'v' => ['\x0b']
        | c => [c]
      (readDelimiters cs).map (d :: ·)
  | ['\\'] => none
  | c :: cs => (readDelimiters cs).map ([c] :: ·)

def weave (delimiters : List Octets) : Nat → List Octets → Octets
  | _, [] => []
  | _, [item] => item
  | i, item :: items =>
      item ++ (delimiters[i % delimiters.length]?).getD [] ++ weave delimiters (i + 1) items

def rows : Nat → List (List Octets) → List (List Octets)
  | 0, _ => []
  | n + 1, columns =>
      if columns.all List.isEmpty then []
      else (columns.map fun c => c.head?.getD []) :: rows n (columns.map List.tail)

def dealLines (lines : List Octets) (count : Nat) : List (List Octets) :=
  let numbered := lines.zipIdx
  (List.range count).map fun k => (numbered.filter fun (_, i) => i % count = k).map (·.1)

def paste (who : Octets) (args : List Octets) : Exec Nat :=
  withOptions who 1 "d:sz" [("delimiters=", "d"), ("serial", "s"), ("zero-terminated", "z")] args fun o => do
    let ending := if o.has "z" then '\x00' else '\n'
    let list := (o.value? "d").getD ['\t']
    match readDelimiters list with
    | none => do
        complain who ("delimiter list ends with an unescaped backslash: ".toList ++ list)
        return 1
    | some delimiters => do
        let delimiters := if delimiters.isEmpty then [[]] else delimiters
        let linesOf := fun (text : Octets) => (Octets.itemsEnding ending text).map (·.1)
        let paths := sources o.operands
        if o.has "s" then
          let (texts, good) ← readOperands who blamePath paths
          write 1 (texts.flatMap fun (_, text) => weave delimiters 0 (linesOf text) ++ [ending])
          return if good then 0 else 1
        else do
          let inputs := (paths.filter (· == ['-'])).length
          let texts ← paths.mapM fun path => do
            if path == ['-'] then return some (path, [])
            else match ← readOperand path with
              | .ok text => return some (path, linesOf text)
              | .error e => do
                  complain who (blamePath path e)
                  return none
          if texts.any Option.isNone then return 1
          let fromInput ← (if inputs = 0 then return .ok [] else readAll 0)
          match fromInput with
          | .error e => do
              complain who ("-: ".toList ++ e.plainText.toList)
              return 1
          | .ok text => do
              let dealt := dealLines (linesOf text) inputs
              let columns := (texts.filterMap id).foldl (fun (acc : List (List Octets) × List (List Octets)) entry =>
                if entry.1 == ['-'] then ((acc.2.head?.getD []) :: acc.1, acc.2.tail) else (entry.2 :: acc.1, acc.2))
                ([], dealt)
              let columns := columns.1.reverse
              let height := (columns.map List.length).foldl max 0
              write 1 ((rows height columns).flatMap fun row => weave delimiters 0 row ++ [ending])
              return 0

inductive OrderCheck where
  | asked
  | refused
  | usual
  deriving DecidableEq, Repr

def orderCheck (o : Options) : OrderCheck :=
  if o.has "check-order" then .asked else if o.has "nocheck-order" then .refused else .usual

def firstUnsorted (key : Octets → Octets) : Nat → List Octets → Option (Nat × Octets)
  | n, a :: b :: ls => if Octets.le (key a) (key b) then firstUnsorted key (n + 1) (b :: ls) else some (n + 1, b)
  | _, _ => none

inductive Compared where
  | line (column : Nat) (text : Octets)
  | unsorted (file : Nat)
  deriving DecidableEq, Repr

def Compared.column : Compared → Nat
  | .line column _ => column
  | .unsorted _ => 0

/-- A comparison under way: the lines that are left of two files, the two lines of each that were read last, the files
that are known to be out of order, and whether a line had no partner. -/
structure Comparing where
  first : List Octets
  second : List Octets
  firstSeen : List Octets := []
  secondSeen : List Octets := []
  blamed : List Nat := []
  unpaired : Bool := false

/-- The fault of a file of which the line after the current one is read; at its end the last two lines are looked at
again. -/
def Comparing.fault? (s : Comparing) (check : OrderCheck) (file : Nat) (seen left : List Octets) : Option Nat :=
  let pair := match seen, left with
    | a :: _, b :: _ => some (a, b)
    | b :: a :: _, [] => some (a, b)
    | _, _ => none
  match pair with
  | some (a, b) =>
      if check = .refused || (check = .usual && !s.unpaired) || s.blamed.contains file || Octets.le a b then none
      else some file
  | none => none

/-- Compares two lists of lines. What came of it stands with the last first. -/
def Comparing.run (check : OrderCheck) : Nat → Comparing → List Compared → List Compared
  | 0, _, out => out.reverse
  | n + 1, s, out =>
      let column := match s.first, s.second with
        | [], [] => 0
        | [], _ => 2
        | _, [] => 1
        | a :: _, b :: _ => if a == b then 3 else if Octets.le a b then 1 else 2
      if column = 0 then out.reverse
      else
        let takesFirst := column ≠ 2
        let takesSecond := column ≠ 1
        let text := if takesSecond then s.second.headD [] else s.first.headD []
        let next : Comparing := {
          first := if takesFirst then s.first.tail else s.first,
          second := if takesSecond then s.second.tail else s.second,
          firstSeen := if takesFirst then (s.first.headD [] :: s.firstSeen).take 2 else s.firstSeen,
          secondSeen := if takesSecond then (s.second.headD [] :: s.secondSeen).take 2 else s.secondSeen,
          blamed := s.blamed, unpaired := s.unpaired || column ≠ 3 }
        let faults := (if takesFirst then (next.fault? check 1 next.firstSeen next.first).toList else []) ++
          (if takesSecond then (next.fault? check 2 next.secondSeen next.second).toList else [])
        let out := (faults.reverse.map Compared.unsorted) ++ .line column text :: out
        if check = .asked && !faults.isEmpty then (out.drop (faults.length - 1)).reverse
        else Comparing.run check n { next with blamed := faults ++ next.blamed } out

def withTwo (who : Octets) (status : Nat) (o : Options) (body : Octets → Octets → Exec Nat) : Exec Nat := do
  match o.operands with
  | [] => misuse who status "missing operand".toList
  | [a] => misuse who status ("missing operand after ".toList ++ quotes a)
  | [a, b] => body a b
  | _ :: _ :: c :: _ => misuse who status ("extra operand ".toList ++ quotes c)

def comm (who : Octets) (args : List Octets) : Exec Nat :=
  withOptions who 1 "123z" [("check-order", "check-order"), ("nocheck-order", "nocheck-order"),
    ("output-delimiter=", "output"), ("total", "total"), ("zero-terminated", "z")] args fun o =>
    withTwo who 1 o fun a b => do
      let first ← readOperand a
      let second ← (match first with
        | .ok _ => readOperand b
        | .error e => return .error e)
      match first, second with
      | .ok first, .ok second => do
          let ending := if o.has "z" then '\x00' else '\n'
          let as := (Octets.itemsEnding ending first).map (·.1)
          let bs := (Octets.itemsEnding ending second).map (·.1)
          let tab := (o.value? "output").getD ['\t']
          let hidden := fun (n : Nat) => o.has (toString n)
          let lead := fun (n : Nat) => ((List.range (n - 1)).filter fun i => !hidden (i + 1)).flatMap fun _ => tab
          let check := orderCheck o
          let compared := Comparing.run check (as.length + bs.length) { first := as, second := bs } []
          let shown := fun (c : Compared) => match c with
            | .line n line => if hidden n then [] else lead n ++ line ++ [ending]
            | .unsorted _ => []
          let mut left := compared
          for c in compared do
            match c with
            | .line _ _ => pure ()
            | .unsorted file => do
                let before := left.takeWhile (· ≠ c)
                write 1 (before.flatMap shown)
                left := left.drop (before.length + 1)
                complain who ("file ".toList ++ Octets.ofNat file ++ " is not in sorted order".toList)
          write 1 (left.flatMap shown)
          let disorder := compared.any (·.column = 0)
          if disorder && check = .asked then return 1
          if o.has "total" then
            let count := fun (n : Nat) => Octets.ofNat (compared.filter (·.column = n)).length
            write 1 (tab.intercalate [count 1, count 2, count 3, "total".toList] ++ [ending])
          if disorder then
            complain who "input is not in sorted order".toList
            return 1
          return 0
      | .error e, _ => do
          complain who (blamePath a e)
          return 1
      | _, .error e => do
          complain who (blamePath b e)
          return 1

inductive JoinField where
  | key
  | field (file index : Nat)
  deriving DecidableEq, Repr

def JoinField.read? (text : Octets) : Option JoinField :=
  match text with
  | ['0'] => some .key
  | '1' :: '.' :: n => (Octets.nat? n).bind fun n => if n = 0 then none else some (.field 1 (n - 1))
  | '2' :: '.' :: n => (Octets.nat? n).bind fun n => if n = 0 then none else some (.field 2 (n - 1))
  | _ => none

structure Joining where
  delimiter : Option Char
  first : Nat
  second : Nat
  foldsCase : Bool
  format : Option (List JoinField)
  filler : Octets

namespace Joining

def fields (j : Joining) (line : Octets) : List Octets :=
  match j.delimiter with
  | some d => Octets.splitOn (· = d) line
  | none => Octets.fields line

def key (j : Joining) (index : Nat) (line : Octets) : Octets :=
  let k := (((j.fields line)[index]?).getD [])
  if j.foldsCase then k.map Char.toUpper else k

def line (j : Joining) (a b : Option Octets) : Octets :=
  let fa := (a.map j.fields).getD []
  let fb := (b.map j.fields).getD []
  let fill := fun (x : Option Octets) => match x with
    | some [] => j.filler
    | some x => x
    | none => j.filler
  let joined := match a with
    | some _ => fa[j.first]?
    | none => fb[j.second]?
  let separator := (j.delimiter.getD ' ')
  let columns := match j.format with
    | some format => format.map fun
        | .key => fill joined
        | .field 1 i => fill fa[i]?
        | .field _ i => fill fb[i]?
    | none => fill joined :: (fa.eraseIdx j.first ++ fb.eraseIdx j.second).map fun x => fill (some x)
  ([separator] : Octets).intercalate columns ++ ['\n']

/-- The lines of two files in the order of their keys: pairs, and lines without a partner with the file they are
from. -/
def pairs (j : Joining) : Nat → List Octets → List Octets → List (Option Octets × Option Octets)
  | 0, _, _ => []
  | _, [], bs => bs.map fun b => (none, some b)
  | _, as, [] => as.map fun a => (some a, none)
  | n + 1, a :: as, b :: bs =>
      let ka := j.key j.first a
      let kb := j.key j.second b
      if ka == kb then
        let same := a :: as.takeWhile fun l => j.key j.first l == ka
        let partners := b :: bs.takeWhile fun l => j.key j.second l == kb
        (same.flatMap fun x => partners.map fun y => (some x, some y)) ++
          j.pairs n ((a :: as).drop same.length) ((b :: bs).drop partners.length)
      else if Octets.le ka kb then (some a, none) :: j.pairs n as (b :: bs)
      else (none, some b) :: j.pairs n (a :: as) bs

end Joining

def join (who : Octets) (args : List Octets) : Exec Nat :=
  withOptions who 1 "a:e:i1:2:j:o:t:v:z" [("ignore-case", "i"), ("check-order", "check-order"),
    ("nocheck-order", "nocheck-order"), ("header", "header"), ("zero-terminated", "z")] args fun o =>
    withTwo who 1 o fun a b => do
      if a == ['-'] && b == ['-'] then
        complain who "both files cannot be standard input".toList
        return 1
      let number := fun (key : String) => ((o.value? key <|> o.value? "j").bind Octets.nat?).getD 1 - 1
      let formats := o.values "o"
      let auto := formats.any (· == "auto".toList)
      let list := formats.flatMap fun f =>
        (Octets.splitOn (fun c => c = ',' || c = ' ' || c = '\t') f).filter (!·.isEmpty)
      let format := if auto || formats.isEmpty then some [] else list.mapM JoinField.read?
      match format with
      | none => misuse who 1 ("invalid field specifier: ".toList ++
          quotes ((list.find? fun f => (JoinField.read? f).isNone).getD []))
      | some format => do
          let first ← readOperand a
          let second ← (match first with
            | .ok _ => readOperand b
            | .error e => return .error e)
          match first, second with
          | .ok first, .ok second => do
              let as := (Octets.lines first).map (·.1)
              let bs := (Octets.lines second).map (·.1)
              let delimiter := match o.value? "t" with
                | some (c :: _) => some c
                | some [] => some '\n'
                | none => none
              let plain : Joining := ⟨delimiter, number "1", number "2", o.has "i",
                if formats.isEmpty || auto then none else some format, (o.value? "e").getD []⟩
              let widths := fun (lines : List Octets) (index : Nat) (file : Nat) =>
                (List.range ((lines.head?.map fun l => (plain.fields l).length).getD 0)).filterMap fun i =>
                  if i = index then none else some (JoinField.field file i)
              let j := if auto then
                  { plain with format := some (.key :: widths as plain.first 1 ++ widths bs plain.second 2) }
                else plain
              let only := o.values "v"
              let also := o.values "a"
              let shown := fun (file : Octets) => only.contains file || also.contains file
              let (headers, as, bs) := match o.has "header", as, bs with
                | true, x :: as, y :: bs => ([(some x, some y)], as, bs)
                | true, x :: as, [] => ([(some x, none)], as, [])
                | true, [], y :: bs => ([(none, some y)], [], bs)
                | _, as, bs => ([], as, bs)
              let pairs := j.pairs (as.length + bs.length) as bs
              let unpaired := pairs.any fun p => p.1.isNone || p.2.isNone
              let check := orderCheck o
              let faults := ((firstUnsorted (j.key j.first) 1 as).map fun (n, l) => (a, n, l)).toList ++
                ((firstUnsorted (j.key j.second) 1 bs).map fun (n, l) => (b, n, l)).toList
              let faults := if check = .refused || (check = .usual && !unpaired) then [] else faults
              for (path, n, l) in faults do
                complain who (path ++ ':' :: Octets.ofNat n ++ ": is not sorted: ".toList ++ l)
              write 1 ((headers ++ pairs).flatMap fun (x, y) =>
                match x, y with
                | some x, some y => if only.isEmpty then j.line (some x) (some y) else []
                | some x, none => if shown ['1'] || o.has "header" && headers.contains (some x, none) then j.line (some x) none else []
                | none, some y => if shown ['2'] || o.has "header" && headers.contains (none, some y) then j.line none (some y) else []
                | none, none => [])
              if faults.isEmpty then return 0
              if check = .usual then complain who "input is not in sorted order".toList
              return 1
          | .error e, _ => do
              complain who (blamePath a e)
              return 1
          | _, .error e => do
              complain who (blamePath b e)
              return 1

end LintBridge.Shell.Program
