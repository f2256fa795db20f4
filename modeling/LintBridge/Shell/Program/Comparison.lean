import LintBridge.Shell.Program.Difference
import LintBridge.Shell.Regex.Search

namespace LintBridge.Shell.Program

open Exec
open Tool (SystemError)

namespace Difference

def keyOf (o : Options) (line : Octets) (ended : Bool) : Octets :=
  let isSpace := fun c : Char => ('\t' ≤ c && c ≤ '\x0d') || c = ' '
  let line := if o.has "i" then line.map Char.toLower else line
  let line := if o.has "Z" then (line.reverse.dropWhile isSpace).reverse else line
  if o.has "w" then line.filter fun c => !isSpace c
  else if o.has "b" then
    let trimmed := (line.reverse.dropWhile isSpace).reverse
    let words := (trimmed.foldl (fun (acc : Octets × Bool) c =>
      if isSpace c then (acc.1, true) else (c :: (if acc.2 then ' ' :: acc.1 else acc.1), false)) ([], false)).1.reverse
    words
  else if ended then line else '\n' :: line

def isBlankChange (a b : Side) (c : Change) : Bool :=
  ((List.range' c.first c.deleted).all fun i => (a.lines[i]?).all List.isEmpty) &&
    (List.range' c.second c.added).all fun i => (b.lines[i]?).all List.isEmpty

def isMatchedChange (r : Regex) (a b : Side) (c : Change) : Bool :=
  ((List.range' c.first c.deleted).all fun i => (a.lines[i]?).all (r.isIn {})) &&
    (List.range' c.second c.added).all fun i => (b.lines[i]?).all (r.isIn {})

/-- A comparison that was asked for: its options, the expressions for lines that do not count, and the words by which it
was asked for. -/
structure Request where
  who : Octets
  o : Options
  ignored : List Regex
  words : Octets

def Request.digits (r : Request) : Option Nat :=
  Octets.nat? (r.o.given.filterMap fun g => match g.1.toList with
    | [c] => if c.isDigit then some c else none
    | _ => none)

def Request.has (r : Request) (key : String) : Bool := r.o.has key

def Request.text (r : Request) (a b : Octets) (context : Nat) (sa sb : Side) (kept : List Change) : Octets :=
  let labels := r.o.values "L"
  let name := fun (i : Nat) (path : Octets) => match labels[i]? with
    | some label => label
    | none => path ++ "\t1970-01-01 00:00:00.000000000 +0000".toList
  if r.has "u" || r.has "U" then
    "--- ".toList ++ name 0 a ++ "\n+++ ".toList ++ name 1 b ++ ['\n'] ++
      (group context [] kept).flatMap (unified context sa sb)
  else if r.has "c" || r.has "C" then
    "*** ".toList ++ name 0 a ++ "\n--- ".toList ++ name 1 b ++ ['\n'] ++
      (group context [] kept).flatMap (contextual context sa sb)
  else if r.has "n" then
    kept.flatMap fun c =>
      (if c.deleted > 0 then 'd' :: Octets.ofNat (c.first + 1) ++ ' ' :: Octets.ofNat c.deleted ++ ['\n'] else []) ++
      (if c.added > 0 then 'a' :: Octets.ofNat (c.first + c.deleted) ++ ' ' :: Octets.ofNat c.added ++ ['\n'] ++
        sb.rows "" c.second c.added else [])
  else if r.has "e" then
    kept.reverse.flatMap fun c =>
      spanText c.first c.deleted ++ [if c.deleted = 0 then 'a' else if c.added = 0 then 'd' else 'c', '\n'] ++
        (if c.added = 0 then [] else sb.rows "" c.second c.added ++ ['.', '\n'])
  else kept.flatMap (normal sa sb)

def Request.columns? (r : Request) : Option (Columns × CommonRows) :=
  if r.has "y" then
    let width := ((r.o.value? "W").bind Octets.nat?).getD 130
    some (.ofWidth width (r.has "t"), if r.has "suppress" then .hidden else if r.has "left" then .left else .both)
  else none

def Request.texts (r : Request) (header : Octets) (a b : Octets) (first second : Octets) : Exec Nat := do
  let announce := fun (text : String) => do
    write 1 ("Files ".toList ++ a ++ " and ".toList ++ b ++ ' ' :: text.toList ++ ['\n'])
  let side := fun (text : Octets) =>
    let ls := Octets.lines text
    (ls, (⟨(ls.map (·.1)).toArray, ls.all (·.2)⟩ : Side))
  let (als, sa) := side first
  let (bls, sb) := side second
  let binary := (first.contains '\x00' || second.contains '\x00') && !r.has "a"
  if first == second then
    if r.has "s" then announce "are identical"
    else match r.columns? with
      | some (c, shown) => if !r.has "q" && !binary then write 1 (header ++ c.page shown sa sb [])
      | none => pure ()
    return 0
  if binary then
    if r.has "q" then announce "differ"
    else write 1 ("Binary files ".toList ++ a ++ " and ".toList ++ b ++ " differ\n".toList)
    return 1
  let asked := (r.o.value? "U" <|> r.o.value? "C").bind Octets.nat?
  let context := (asked <|> r.digits).getD 3
  let withContext := r.has "u" || r.has "U" || r.has "c" || r.has "C"
  let keys := fun (ls : List (Octets × Bool)) => ls.map fun (l, e) => keyOf r.o l e
  let all := Difference.changes (if withContext then context else 0) (keys als) (keys bls)
  let kept := if r.has "B" then all.filter fun c => !isBlankChange sa sb c else all
  let kept := kept.filter fun c => !(r.ignored.any fun e => isMatchedChange e sa sb c)
  if kept.isEmpty then
    if r.has "s" then announce "are identical"
    else match r.columns? with
      | some (c, shown) => if !r.has "q" then write 1 (header ++ c.page shown sa sb all)
      | none => pure ()
    return 0
  if r.has "q" then
    announce "differ"
    return 1
  match r.columns? with
  | some (c, shown) => write 1 (header ++ c.page shown sa sb all)
  | none => write 1 (header ++ r.text a b context sa sb kept)
  return 1

def isDirectory (path : Octets) : Exec Bool := do
  let s ← get
  return match s.world.files.find s.working (Octets.toBytes path) with
    | .ok (_, .directory) => true
    | _ => false

def namesIn (path : Octets) : Exec (List Octets) := do
  let s ← get
  match s.world.files.find s.working (Octets.toBytes path) with
  | .ok (place, .directory) =>
      let inside := s.world.files.nodes.filterMap fun (p, _) =>
        if place.isPrefixOf p && p.length = place.length + 1 then (p.getLast?).map Octets.ofBytes else none
      return (inside.mergeSort Octets.le).eraseDups
  | _ => return []

def under (path name : Octets) : Octets := if path.getLast? = some '/' then path ++ name else path ++ '/' :: name

def Request.compare (r : Request) : Nat → Bool → Octets → Octets → Exec Nat
  | 0, _, _, _ => return 2
  | n + 1, top, a, b => do
      match ← isDirectory a, ← isDirectory b with
      | true, true =>
          if !top && !r.has "r" then
            write 1 ("Common subdirectories: ".toList ++ a ++ " and ".toList ++ b ++ ['\n'])
            return 0
          let firsts ← namesIn a
          let seconds ← namesIn b
          let mut status := 0
          for name in ((firsts ++ seconds).mergeSort Octets.le).eraseDups do
            let alone := fun (dir : Octets) => "Only in ".toList ++ dir ++ ": ".toList ++ name ++ ['\n']
            if !r.has "N" && !seconds.contains name then
              write 1 (alone a)
              status := max status 1
            else if !r.has "N" && !firsts.contains name then
              write 1 (alone b)
              status := max status 1
            else status := max status (← r.compare n false (under a name) (under b name))
          return status
      | true, false =>
          if top then r.compare n top (under a (lastPart b)) b
          else mixed b a false
      | false, true =>
          if top then r.compare n top a (under b (lastPart a))
          else mixed a b true
      | false, false =>
          let first ← read a
          let second ← read b
          match first, second with
          | some first, some second =>
              r.texts (if top then [] else r.words ++ ' ' :: a ++ ' ' :: b ++ ['\n']) a b first second
          | _, _ => return 2
where
  lastPart (path : Octets) : Octets := (path.reverse.takeWhile (· ≠ '/')).reverse
  mixed (file dir : Octets) (fileFirst : Bool) : Exec Nat := do
    write 1 (if fileFirst then "File ".toList ++ file ++ " is a regular file while file ".toList ++ dir ++ " is a directory\n".toList
      else "File ".toList ++ dir ++ " is a directory while file ".toList ++ file ++ " is a regular file\n".toList)
    return 1
  read (path : Octets) : Exec (Option Octets) := do
    match ← readOperand path with
    | .ok text => return some text
    | .error e => do
        if r.has "N" && e = .notFound then return some []
        complain r.who (blamePath path e)
        return none

def words : List (String × String) :=
  [("ignore-case", "i"), ("ignore-space-change", "b"), ("ignore-all-space", "w"), ("ignore-blank-lines", "B"),
    ("ignore-trailing-space", "Z"), ("unified=?", "U"), ("context=?", "C"), ("brief", "q"), ("report-identical-files", "s"),
    ("label=", "L"), ("new-file", "N"), ("text", "a"), ("normal", "normal"), ("recursive", "r"), ("minimal", "d"),
    ("expand-tabs", "t"), ("strip-trailing-cr", "cr"), ("color=?", "color"), ("ed", "e"), ("side-by-side", "y"), ("rcs", "n"),
    ("width=", "W"), ("left-column", "left"), ("suppress-common-lines", "suppress"), ("ignore-matching-lines=", "I"),
    ("speed-large-files", "H"), ("show-c-function", "p"), ("initial-tab", "T"), ("exclude=", "x")]

def misused (who text : Octets) : Exec Nat := do
  complain who text
  complain who ("Try '".toList ++ who ++ " --help' for more information.".toList)
  return 2

end Difference

open Difference in
def diff (who : Octets) (args : List Octets) : Exec Nat := do
  match (Grammar.read "0123456789abBcC:dehHiI:lL:nNpPqrstTuU:vwW:x:X:yZ" Difference.words).parse args with
  | .error e => misused who e.text
  | .ok o =>
  match o.operands with
  | [] => misused who ("missing operand after ".toList ++ quotes (args.getLastD who))
  | [a] => misused who ("missing operand after ".toList ++ quotes a)
  | _ :: _ :: c :: _ => misused who ("extra operand ".toList ++ quotes c)
  | [a, b] => do
      match (o.values "I").mapM (Regex.parse .basic) with
      | .error f => do
          complain who (((o.values "I").headD []) ++ ": ".toList ++ f.message.toList)
          return 2
      | .ok ignored => do
          let given := args.filter fun arg => !o.operands.contains arg
          let r : Request := ⟨who, o, ignored, ([' '] : Octets).intercalate (who :: given)⟩
          let depth := (← get).world.files.nodes.length + 3
          r.compare depth true a b

open Difference in
def sdiff (who : Octets) (args : List Octets) : Exec Nat := do
  let known := [("ignore-case", "i"), ("ignore-space-change", "b"), ("ignore-all-space", "W"), ("ignore-blank-lines", "B"),
    ("ignore-trailing-space", "Z"), ("text", "a"), ("minimal", "d"), ("expand-tabs", "t"), ("width=", "w"),
    ("left-column", "l"), ("suppress-common-lines", "s"), ("ignore-matching-lines=", "I"), ("strip-trailing-cr", "cr")]
  match (Grammar.read "abBdEHiI:lo:stvw:WZ" known).parse args with
  | .error e => misused who e.text
  | .ok o =>
      let renamed := o.given.map fun (key, value) => (match key with
        | "W" => "w"
        | "w" => "W"
        | "l" => "left"
        | "s" => "suppress"
        | key => key, value)
      match o.operands with
      | [] => misused who ("missing operand after ".toList ++ quotes (args.getLastD who))
      | [a] => misused who ("missing operand after ".toList ++ quotes a)
      | _ :: _ :: c :: _ => misused who ("extra operand ".toList ++ quotes c)
      | [a, b] => do
          let ignored := ((o.values "I").mapM (Regex.parse .basic)).toOption.getD []
          let r : Request := ⟨"diff".toList, { o with given := ("y", []) :: renamed }, ignored, "diff".toList⟩
          r.compare 3 true a b

def differingBytes : Nat → Octets → Octets → List (Nat × Char × Char)
  | i, a :: as, b :: bs => if a = b then differingBytes (i + 1) as bs else (i, a, b) :: differingBytes (i + 1) as bs
  | _, _, _ => []

def octalText (c : Char) : Octets := Nat.toDigits 8 c.toNat

def cmp (who : Octets) (args : List Octets) : Exec Nat := do
  let misused := fun (text : Octets) => do
    complain who text
    complain who ("Try '".toList ++ who ++ " --help' for more information.".toList)
    return 2
  match (Grammar.read "bci:ln:sv" [("print-bytes", "b"), ("ignore-initial=", "i"), ("verbose", "l"), ("bytes=", "n"),
    ("silent", "s"), ("quiet", "s")]).parse args with
  | .error e => misused e.text
  | .ok o =>
  match o.operands with
  | [] => misused ("missing operand after ".toList ++ quotes (args.getLastD who))
  | a :: others => do
      let b := others.headD ['-']
      let skips := (o.value? "i").map fun v =>
        let x := v.takeWhile (· ≠ ':')
        let y := v.drop (x.length + 1)
        ((size? x).getD 0, if y.isEmpty then (size? x).getD 0 else (size? y).getD 0)
      let (skipA, skipB) := skips.getD (((others[1]?).bind size?).getD 0, ((others[2]?).bind size?).getD 0)
      let read := fun (path : Octets) => do
        match ← readOperand path with
        | .ok text => return some text
        | .error e => do
            if !o.has "s" then complain who (blamePath path e)
            return none
      let first ← read a
      let second ← read b
      match first, second with
      | some first, some second => do
          let limit := fun (text : Octets) => match (o.value? "n").bind size? with
            | some n => text.take n
            | none => text
          let first := limit (first.drop skipA)
          let second := limit (second.drop skipB)
          let places := differingBytes 1 first second
          let short := first.length ≠ second.length
          if o.has "s" then return if places.isEmpty && !short then 0 else 1
          let (shorter, name) := if first.length < second.length then (first, a) else (second, b)
          let ending := do
            if shorter.isEmpty then complain who ("EOF on ".toList ++ name ++ " which is empty".toList)
            else
              let newlines := (shorter.filter (· = '\n')).length
              let whole := shorter.getLast? = some '\n'
              complain who ("EOF on ".toList ++ name ++ " after byte ".toList ++ Octets.ofNat shorter.length ++
                (if o.has "l" then [] else if whole then ", line ".toList ++ Octets.ofNat newlines
                  else ", in line ".toList ++ Octets.ofNat (newlines + 1)))
          let visible := fun (c : Char) =>
            let low := fun (n : Nat) => if n < 32 then ['^', Char.ofNat (n + 64)] else if n = 127 then ['^', '?'] else [Char.ofNat n]
            if c.toNat < 128 then low c.toNat else 'M' :: '-' :: low (c.toNat - 128)
          match places with
          | [] => do
              if short then
                ending
                return 1
              return 0
          | (i, x, y) :: _ => do
              if o.has "l" then
                if short then ending
                let width := (Octets.ofNat (min first.length second.length)).length
                write 1 (places.flatMap fun (i, x, y) =>
                  Octets.padLeft width ' ' (Octets.ofNat i) ++ ' ' :: Octets.padLeft 3 ' ' (octalText x) ++
                    (if o.has "b" then ' ' :: Octets.padRight 4 ' ' (visible x) else []) ++ ' ' ::
                    Octets.padLeft 3 ' ' (octalText y) ++ (if o.has "b" then ' ' :: visible y else []) ++ ['\n'])
              else
                let line := ((first.take (i - 1)).filter (· = '\n')).length + 1
                write 1 (a ++ ' ' :: b ++ " differ: ".toList ++ (if o.has "b" then "byte " else "char ").toList ++ Octets.ofNat i ++
                  ", line ".toList ++ Octets.ofNat line ++
                  (if o.has "b" then " is ".toList ++ Octets.padLeft 3 ' ' (octalText x) ++ ' ' :: visible x ++ ' ' ::
                    Octets.padLeft 3 ' ' (octalText y) ++ ' ' :: visible y else []) ++ ['\n'])
              return 1
      | _, _ => return 2

end LintBridge.Shell.Program
