import LintBridge.Shell.Program.Runner
import LintBridge.Shell.Regex.Search

namespace LintBridge.Shell.Program

open Exec

inductive Finding where
  | name (pattern : Pattern) (foldsCase : Bool)
  | path (pattern : Pattern)
  | regex (r : Regex)
  | kind (letters : Octets)
  | empty
  | size (sign : Option Char) (count unit : Nat)
  | always (b : Bool)
  | print (ending : Char)
  | printf (format : Octets)
  | exec (words : List Octets) (together : Bool)
  | delete
  | prune
  | quit
  | not (a : Finding)
  | and (a b : Finding)
  | or (a b : Finding)

inductive FindFault where
  | unknown (word : Octets)
  | missing (word : Octets)
  | invalid (text : Octets)
  deriving DecidableEq, Repr

def FindFault.text : FindFault → Octets
  | .unknown word => "unknown predicate \x60".toList ++ word ++ ['\x27']
  | .missing word => "missing argument to \x60".toList ++ word ++ ['\x27']
  | .invalid text => text

structure Depths where
  least : Nat := 0
  most : Option Nat := none
  insideFirst : Bool := false

namespace Finding

def plainPattern (cs : Octets) : Pattern := Pattern.read (cs.map (·, false))

abbrev Read := StateT (List Octets × Depths) (Except FindFault)

def argument (word : Octets) : Read Octets := do
  let (rest, d) ← get
  match rest with
  | [] => throw (.missing word)
  | a :: rest => do
      set ((rest, d) : List Octets × Depths)
      return a

def changeDepths (f : Depths → Depths) : Read Unit := modify fun (rest, d) => (rest, f d)

def depthNumber (word : Octets) : Read Nat := do
  let a ← argument word
  match Octets.nat? a with
  | some n => return n
  | none => throw (.invalid ("Expected a positive decimal integer argument to ".toList ++ word ++ ", but got ".toList ++ quotes a))

def command (word : Octets) : Nat → List Octets → Read Finding
  | 0, _ => throw (.missing word)
  | n + 1, words => do
      let a ← argument word
      if a == [';'] then
        if words.isEmpty then throw (.missing word) else return .exec words.reverse false
      else if a == ['+'] && words.head? == some ['\x7b', '\x7d'] then return .exec words.tail.reverse true
      else command word n (a :: words)

def sizeTest (word a : Octets) : Read Finding := do
  let (sign, digits) := match a with
    | '+' :: ds => (some '+', ds)
    | '-' :: ds => (some '-', ds)
    | ds => (none, ds)
  let n := digits.takeWhile Char.isDigit
  let unit := match digits.drop n.length with
    | ['c'] => some 1
    | ['w'] => some 2
    | ['k'] => some 1024
    | ['M'] => some 1048576
    | ['G'] => some 1073741824
    | ['b'] => some 512
    | [] => some 512
    | _ => none
  match Octets.nat? n, unit with
  | some n, some unit => return .size sign n unit
  | _, _ => throw (.invalid ("Invalid argument \x60".toList ++ a ++ "' to ".toList ++ word))

mutual

def readOr (n : Nat) : Read Finding :=
  match n with
  | 0 => return .always true
  | n + 1 => do
      let a ← readAnd n
      match (← get).1 with
      | w :: rest =>
          if w == "-o".toList || w == "-or".toList then
            set ((rest, (← get).2) : List Octets × Depths)
            return .or a (← readOr n)
          else return a
      | [] => return a

def readAnd (n : Nat) : Read Finding :=
  match n with
  | 0 => return .always true
  | n + 1 => do
      let a ← readOne n
      match (← get).1 with
      | w :: rest =>
          if w == "-o".toList || w == "-or".toList || w == [')'] then return a
          else do
            if w == "-a".toList || w == "-and".toList then set ((rest, (← get).2) : List Octets × Depths)
            return .and a (← readAnd n)
      | [] => return a

def readOne (n : Nat) : Read Finding :=
  match n with
  | 0 => return .always true
  | n + 1 => do
      let w ← argument []
      match String.ofList w with
      | "!" => return .not (← readOne n)
      | "-not" => return .not (← readOne n)
      | "(" => do
          let a ← readOr n
          let _ ← argument w
          return a
      | "-name" => return .name (plainPattern (← argument w)) false
      | "-iname" => return .name (plainPattern ((← argument w).map Char.toLower)) true
      | "-path" => return .path (plainPattern (← argument w))
      | "-wholename" => return .path (plainPattern (← argument w))
      | "-regex" => do
          let a ← argument w
          match Regex.parse .basic a with
          | .ok r => return .regex r
          | .error e => throw (.invalid e.message.toList)
      | "-type" => do
          let a ← argument w
          let letters := a.filter (· ≠ ',')
          match letters.find? fun c => !"fdlcbps".toList.contains c with
          | some c => throw (.invalid ("Unknown argument to -type: ".toList ++ [c]))
          | none => return .kind letters
      | "-empty" => return .empty
      | "-size" => do sizeTest w (← argument w)
      | "-true" => return .always true
      | "-false" => return .always false
      | "-print" => return .print '\n'
      | "-print0" => return .print '\x00'
      | "-printf" => return .printf (← argument w)
      | "-exec" => command w (n + 1000) []
      | "-execdir" => command w (n + 1000) []
      | "-delete" => do
          changeDepths fun d => { d with insideFirst := true }
          return .delete
      | "-prune" => return .prune
      | "-quit" => return .quit
      | "-depth" => do
          changeDepths fun d => { d with insideFirst := true }
          return .always true
      | "-maxdepth" => do
          let k ← depthNumber w
          changeDepths fun d => { d with most := some k }
          return .always true
      | "-mindepth" => do
          let k ← depthNumber w
          changeDepths fun d => { d with least := k }
          return .always true
      | "-follow" => return .always true
      | "-xdev" => return .always true
      | "-mount" => return .always true
      | _ => throw (.unknown w)

end

def acts : Finding → Bool
  | .print _ => true
  | .printf _ => true
  | .exec _ _ => true
  | .delete => true
  | .quit => true
  | .not a => a.acts
  | .and a b => a.acts || b.acts
  | .or a b => a.acts || b.acts
  | _ => false

def gathering : Finding → List (List Octets)
  | .exec words true => [words]
  | .not a => a.gathering
  | .and a b => a.gathering ++ b.gathering
  | .or a b => a.gathering ++ b.gathering
  | _ => []

end Finding

structure Found where
  path : Octets
  place : List Bytes
  node : Node
  depth : Nat

structure Hunt where
  gathered : List (List Octets × Octets) := []
  pruned : Bool := false
  stops : Bool := false
  failed : Bool := false

def kindLetter : Node → Char
  | .file _ _ => 'f'
  | .program _ => 'f'
  | .directory => 'd'
  | .link _ => 'l'
  | _ => 'c'

def foundText (f : Found) : Nat → Octets → Octets
  | 0, _ => []
  | _, [] => []
  | n + 1, '%' :: c :: cs =>
      let text := match c with
        | 'p' => f.path
        | 'f' => lastName f.path
        | 'h' => directoryOf f.path
        | 's' => Octets.ofNat (nodeSize f.node)
        | 'd' => Octets.ofNat f.depth
        | 'y' => [kindLetter f.node]
        | 'm' => (nodeMode f.node).1.toList
        | 'M' => (nodeMode f.node).2.toList
        | 'u' => "root".toList
        | 'g' => "root".toList
        | '%' => ['%']
        | c => ['%', c]
      text ++ foundText f n cs
  | n + 1, c :: cs => c :: foundText f n cs

abbrev Hunting := StateT Hunt Exec

def Finding.holds (c : Caller) (who : Octets) (f : Found) : Finding → Hunting Bool
  | .name p foldsCase =>
      let name := lastName f.path
      return p.accepts (if foldsCase then name.map Char.toLower else name)
  | .path p => return p.accepts f.path
  | .regex r => return (((r.laidOn f.path.toArray {}).stops 0).contains f.path.length)
  | .kind letters => return letters.contains (kindLetter f.node)
  | .empty => do
      let files := (← liftM (get : Exec State)).world.files
      return match f.node with
        | .file content _ => content.isEmpty
        | .directory => (files.entries f.place).isEmpty
        | _ => false
  | .size sign count unit =>
      let n := (nodeSize f.node + unit - 1) / unit
      return match sign with
        | some '+' => decide (count < n)
        | some _ => decide (n < count)
        | none => decide (n = count)
  | .always b => return b
  | .print ending => do
      liftM (write 1 (f.path ++ [ending]) : Exec Unit)
      return true
  | .printf format => do
      let text := (Format.unescape .program format).1
      liftM (write 1 (foundText f (text.length + 1) text) : Exec Unit)
      return true
  | .exec words true => do
      modify fun (h : Hunt) => { h with gathered := (words, f.path) :: h.gathered }
      return true
  | .exec words false => do
      let words := words.map fun w => replaceText ['\x7b', '\x7d'] f.path (w.length + 1) w
      match ← liftM (c.launch words : Exec Launched) with
      | .ended status _ => return decide (status = 0)
      | .missing => do
          liftM (complain who (quotes (words.headD []) ++ ": No such file or directory".toList) : Exec Unit)
          return false
      | .forbidden => do
          liftM (complain who (quotes (words.headD []) ++ ": Permission denied".toList) : Exec Unit)
          return false
  | .delete => do
      let files := (← liftM (get : Exec State)).world.files
      if f.node == .directory && !(files.entries f.place).isEmpty then
        liftM (complain who ("cannot delete ".toList ++ quotes f.path ++ ": Directory not empty".toList) : Exec Unit)
        modify fun (h : Hunt) => { h with failed := true }
        return false
      else do
        liftM (modifyFiles fun files => files.remove f.place : Exec Unit)
        return true
  | .prune => do
      modify fun (h : Hunt) => { h with pruned := true }
      return true
  | .quit => do
      modify fun (h : Hunt) => { h with stops := true }
      return true
  | .not a => do return !(← a.holds c who f)
  | .and a b => do
      if ← a.holds c who f then b.holds c who f else return false
  | .or a b => do
      if ← a.holds c who f then return true else b.holds c who f

def huntFrom (c : Caller) (who : Octets) (d : Depths) (test : Finding) : Nat → Found → Hunting Unit
  | 0, _ => return
  | n + 1, f => do
      if (← get).stops then return
      let look : Hunting Unit := do
        if d.least ≤ f.depth then
          let _ ← test.holds c who f
      modify fun (h : Hunt) => { h with pruned := false }
      if !d.insideFirst then look
      let pruned := (← get).pruned
      if f.node == .directory && !pruned && d.most.all (f.depth < ·) then
        let files := (← liftM (get : Exec State)).world.files
        let names := (files.entries f.place).mergeSort fun a b => Octets.le (Octets.ofBytes a) (Octets.ofBytes b)
        let base := if f.path.getLast? = some '/' then f.path else f.path ++ ['/']
        for name in names do
          match files.get? (f.place ++ [name]) with
          | some node => huntFrom c who d test n ⟨base ++ Octets.ofBytes name, f.place ++ [name], node, f.depth + 1⟩
          | none => pure ()
      if d.insideFirst && !(← get).stops then look

def find (c : Caller) (who : Octets) (args : List Octets) : Exec Nat := do
  let args := args.dropWhile fun a => a == "-L".toList || a == "-P".toList || a == "-H".toList
  let isTest := fun (a : Octets) => (a.head? = some '-' && a.length > 1) || a == ['!'] || a == ['(']
  let paths := args.takeWhile fun a => !isTest a
  let words := args.drop paths.length
  let parsed : Except FindFault (Finding × List Octets × Depths) :=
    if words.isEmpty then .ok (.always true, [], {}) else (Finding.readOr (4 * words.length + 4)).run (words, {})
  match parsed with
  | .error e => do
      complain who e.text
      return 1
  | .ok (test, left, depths) => do
      if !left.isEmpty then
        complain who ("paths must precede expression: \x60".toList ++ left.headD [] ++ ['\x27'])
        return 1
      let test := if test.acts then test else .and test (.print '\n')
      let results ← (if paths.isEmpty then [['.']] else paths).mapM fun path => do
        match ← nodeOf path with
        | .error e => do
            complain who (quotes path ++ ": ".toList ++ e.plainText.toList)
            return ({ failed := true } : Hunt)
        | .ok (place, node) => do
            let (_, h) ← (huntFrom c who depths test 64 ⟨path, place, node, 0⟩).run {}
            return h
      let gathered := results.flatMap fun h => h.gathered.reverse
      let mut failed := results.any (·.failed)
      for words in test.gathering do
        let files := (gathered.filter (·.1 == words)).map (·.2)
        if !files.isEmpty then
          match ← c.launch (words ++ files) with
          | .ended 0 none => pure ()
          | .ended _ _ => failed := true
          | _ => do
              complain who (quotes (words.headD []) ++ ": No such file or directory".toList)
              failed := true
      return if failed then 1 else 0

end LintBridge.Shell.Program
