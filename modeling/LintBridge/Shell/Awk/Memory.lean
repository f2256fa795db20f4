import LintBridge.Shell.Awk
import LintBridge.Shell.Awk.Table
import LintBridge.Shell.Machine
import LintBridge.Shell.Regex.Reader

namespace LintBridge.Shell.Awk

inductive Separator where
  | blanks
  | char (c : Char)
  | nothing
  | emptyLines
  | regex (r : Regex)

/-- The parts of a text between the matches of an expression, the last first. -/
def cutAt (laid : Regex.Laid) : Nat → List Octets → Nat → Nat → List Octets
  | 0, acc, start, _ => (laid.text.extract start laid.text.size).toList :: acc
  | n + 1, acc, start, search =>
      match laid.span? search with
      | none => (laid.text.extract start laid.text.size).toList :: acc
      | some (i, j) =>
          if i = j then
            if j < laid.text.size then cutAt laid n acc start (j + 1)
            else (laid.text.extract start laid.text.size).toList :: acc
          else cutAt laid n ((laid.text.extract start i).toList :: acc) j j

def splitRegex (r : Regex) (text : Octets) : List Octets :=
  let text := text.toArray
  (cutAt (r.laidOn text ⟨false, false⟩) (text.size + 1) [] 0 0).reverse

def Separator.split (s : Separator) (text : Octets) : List Octets :=
  if text.isEmpty then []
  else match s with
    | .blanks => (Octets.splitOn Real.isBlank text).filter (!·.isEmpty)
    | .char c => Octets.splitOn (· = c) text
    | .nothing => text.map ([·])
    | .emptyLines => text.map ([·])
    | .regex r => splitRegex r text

structure Feed where
  text : Octets
  stop : Option Stop := none
  /-- The records that were found already, with how much of the text each takes. -/
  ready : List (Octets × Nat) := []

/-- The records of a text between the matches of an expression, with how much of it each takes, the last first. -/
def recordsAt (laid : Regex.Laid) : Nat → List (Octets × Nat) → Nat → Nat → List (Octets × Nat)
  | 0, acc, _, _ => acc
  | n + 1, acc, start, search =>
      let size := laid.text.size
      let last := if start < size then ((laid.text.extract start size).toList, size - start) :: acc else acc
      match laid.span? search with
      | none => last
      | some (i, j) =>
          if i = j then if j < size then recordsAt laid n acc start (j + 1) else last
          else recordsAt laid n (((laid.text.extract start i).toList, j - start) :: acc) j j

def paragraph : Octets → Octets → Octets × Octets
  | acc, '\n' :: '\n' :: cs => (acc, cs.dropWhile (· = '\n'))
  | acc, ['\n'] => (acc, [])
  | acc, c :: cs => paragraph (c :: acc) cs
  | acc, [] => (acc, [])

/-- Takes the next record. Where more may come, a record without its end has to wait. -/
def Feed.take (s : Separator) (f : Feed) : Option (Octets × Feed) :=
  let plain := fun (c : Char) =>
    let record := f.text.takeWhile (· ≠ c)
    match f.text.drop record.length with
    | _ :: rest => some (record, { f with text := rest, ready := [] })
    | [] => if record.isEmpty || f.stop.isSome then none else some (record, { f with text := [], ready := [] })
  match s with
  | .char c => plain c
  | .blanks => plain ' '
  | .emptyLines =>
      let text := f.text.dropWhile (· = '\n')
      if text.isEmpty then none
      else
        let (record, rest) := paragraph [] text
        if rest.isEmpty && f.stop.isSome then none
        else some (record.reverse, { f with text := rest, ready := [] })
  | .nothing => plain '\n'
  | .regex r =>
      let ready := match f.ready with
        | [] => (recordsAt (r.laidOn f.text.toArray ⟨false, false⟩) (f.text.length + 1) [] 0 0).reverse
        | ready => ready
      match ready with
      | [] => none
      | (record, used) :: more =>
          if more.isEmpty && f.stop.isSome then none
          else some (record, { f with text := f.text.drop used, ready := more })

inductive Cell where
  | value (v : Value)
  | table (id : Nat)

instance : Inhabited Cell := ⟨.value .unset⟩

inductive Outlet where
  | stream (id : Nat)
  | command (text : List Octets)
  /-- What is also the own output or that for complaints. -/
  | descriptor (fd : Nat)

structure Memory where
  shared : Array Value
  tables : Array Table
  frame : Array Cell := #[]
  depth : Nat := 0
  record : Octets := []
  fields : Option (Array Value) := none
  cutting : Separator := .blanks
  recordNumber : Float := 0
  fileRecordNumber : Float := 0
  fieldSeparator : Value := .str [' ']
  recordSeparator : Value := .str ['\n']
  outputFieldSeparator : Octets := [' ']
  outputRecordSeparator : Octets := ['\n']
  subscriptSeparator : Octets := ['\x1c']
  conversionFormat : Octets := usualFormat
  outputFormat : Octets := usualFormat
  fieldCut : Separator := .blanks
  recordCut : Separator := .char '\n'
  regexes : Std.HashMap Octets Regex := {}
  ranges : List Nat := []
  status : Nat := 0
  out : List Octets := []
  outSize : Nat := 0
  outlets : List (Octets × Outlet) := []
  files : List (Octets × Feed) := []
  commands : List (Octets × Feed × Nat) := []
  main : Option Feed := none
  operand : Nat := 1
  anyOperand : Bool := false
  mainDone : Bool := false
  random : Array UInt32 := #[]
  seed : Value := .num 0

namespace Memory

def cut (m : Memory) : Array Value × Memory :=
  match m.fields with
  | some fields => (fields, m)
  | none =>
      let fields := ((m.cutting.split m.record).map Value.input).toArray
      (fields, { m with fields := some fields })

def setRecord (m : Memory) (text : Octets) : Memory := { m with record := text, fields := none, cutting := m.fieldCut }

def rebuild (m : Memory) (fields : Array Value) : Memory :=
  let texts := fields.toList.map (Value.toText m.conversionFormat)
  { m with record := m.outputFieldSeparator.intercalate texts, fields := some fields }

def setFieldCount (m : Memory) (n : Nat) : Memory :=
  let (fields, m) := m.cut
  m.rebuild (fields.extract 0 n ++ Array.replicate (n - fields.size) (Value.str []))

def getField (m : Memory) (i : Nat) : Value × Memory :=
  if i = 0 then (.input m.record, m)
  else
    let (fields, m) := m.cut
    ((fields[i - 1]?).getD (.str []), m)

def setField (m : Memory) (i : Nat) (v : Value) : Memory :=
  if i = 0 then m.setRecord (v.toText m.conversionFormat)
  else
    let (fields, m) := m.cut
    let fields := fields ++ Array.replicate (i - fields.size) (Value.str [])
    m.rebuild (fields.setIfInBounds (i - 1) v)

def tableAt (m : Memory) (id : Nat) : Table := (m.tables[id]?).getD {}

def setTable (m : Memory) (id : Nat) (t : Table) : Memory := { m with tables := m.tables.setIfInBounds id t }

def tableId (m : Memory) : Variable → Nat
  | .shared i => i
  | .parameter i =>
      match m.frame[i]? with
      | some (.table id) => id
      | _ => m.tables.size
  | .special _ => m.tables.size

end Memory

/-- The sequence after a seed, from which the first numbers are dropped: every number is the sum of the one three and
the one thirty-one places before it. -/
def seeded (seed : Nat) : Array UInt32 :=
  let first : Nat := if seed % 4294967296 = 0 then 1 else seed % 4294967296
  let firsts := (List.range 30).foldl (fun (r : Array UInt32) _ =>
    let last : Int := (r.back?.getD 0).toNat
    let last : Int := if last ≥ 2147483648 then last - 4294967296 else last
    let next := (16807 * last) % 2147483647
    r.push next.toNat.toUInt32) #[first.toUInt32]
  (List.range 313).foldl (fun (r : Array UInt32) i =>
    if i < 3 then r.push ((r[i]?).getD 0) else r.push ((r[r.size - 31]?).getD 0 + (r[r.size - 3]?).getD 0)) firsts

def nextRandom (r : Array UInt32) : Nat × Array UInt32 :=
  let next := (r[r.size - 31]?).getD 0 + (r[r.size - 3]?).getD 0
  ((next >>> 1).toNat, (r.push next).extract (r.size + 1 - 34) (r.size + 1))

end LintBridge.Shell.Awk
