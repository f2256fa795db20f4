import LintBridge.Shell.Program.Input
import LintBridge.Shell.Regex.Search

namespace LintBridge.Shell.Program

open Exec

structure Matcher where
  regexes : List Regex
  mode : Regex.Mode
  words : Bool
  wholes : Bool
  first : Bool

namespace Matcher

def laidOn (m : Matcher) (line : Array Char) : List Regex.Laid :=
  m.regexes.map fun r => if m.first then r.laidFirst line m.mode else r.laidOn line m.mode

def isWord (line : Array Char) (start stop : Nat) : Bool :=
  !Regex.isWordBefore line start && !Regex.isWordAt line stop

def wordSpan? (l : Regex.Laid) : Nat → Nat → Option (Nat × Nat)
  | 0, _ => none
  | n + 1, i =>
      match l.span? i with
      | none => none
      | some (start, _) =>
          match (l.stops start).find? (isWord l.text start) with
          | some stop => some (start, stop)
          | none => wordSpan? l n (start + 1)

def spanOf? (m : Matcher) (l : Regex.Laid) (i : Nat) : Option (Nat × Nat) :=
  if m.wholes then
    if i = 0 && (l.stops 0).contains l.text.size then some (0, l.text.size) else none
  else if m.words then wordSpan? l (l.text.size + 1) i
  else l.span? i

def span? (m : Matcher) (laid : List Regex.Laid) (i : Nat) : Option (Nat × Nat) :=
  (laid.filterMap fun l => m.spanOf? l i).foldl (fun best s =>
    match best with
    | some b => if s.1 < b.1 || (s.1 = b.1 && b.2 < s.2) then some s else best
    | none => some s) none

def isIn (m : Matcher) (line : Octets) : Bool :=
  let laid := m.laidOn line.toArray
  if m.words || m.wholes then laid.any fun l => (m.spanOf? l 0).isSome else laid.any (·.succeeds)

def parts (m : Matcher) (line : Array Char) : List (Nat × Nat) :=
  let laid := m.laidOn line
  let rec go : Nat → Nat → List (Nat × Nat)
    | 0, _ => []
    | n + 1, i =>
        match m.span? laid i with
        | none => []
        | some (start, stop) => if stop ≤ start then go n (start + 1) else (start, stop) :: go n stop
  go (line.size + 1) 0

end Matcher

structure Showing where
  name : Option Octets
  numbers : Bool
  offsets : Bool
  tabs : Bool
  zeroAfterName : Bool
  onlyParts : Bool
  ending : Char
  before : Nat
  after : Nat
  separator : Option Octets
  most : Option Nat
  inverted : Bool
  visible : Bool
  oneIsEnough : Bool
  colored : Bool
  width : Nat := 0

def Showing.tint (s : Showing) (color : String) (text : Octets) : Octets :=
  if s.colored then '\x1b' :: '[' :: color.toList ++ 'm' :: '\x1b' :: '[' :: 'K' :: text ++ "\x1b[m\x1b[K".toList else text

def Showing.tintName (s : Showing) (name : Octets) : Octets := s.tint "35" name

def Showing.tintSign (s : Showing) (sign : Octets) : Octets := s.tint "36" sign

def Showing.lead (s : Showing) (sign : Char) (number offset : Nat) : Octets :=
  let ends := s.tintSign [sign]
  let count := fun (n : Nat) => s.tint "32" (Octets.padLeft s.width ' ' (Octets.ofNat n)) ++ ends
  let name := match s.name with
    | some n => s.tintName n ++ (if s.zeroAfterName then ['\x00'] else ends)
    | none => []
  let numbers := if s.numbers then count number else []
  let offsets := if s.offsets then count offset else []
  let all := name ++ numbers ++ offsets
  if s.tabs && !all.isEmpty then all ++ ['\t'] else all

/-- A search under way. The text to be shown has its last part first. -/
structure Searching where
  out : List Octets := []
  number : Nat := 0
  offset : Nat := 0
  /-- The lines before that may still be shown, the last one first, with their numbers and offsets. -/
  recent : List (Octets × Nat × Nat) := []
  following : Nat := 0
  found : Nat := 0
  shown : Nat := 0
  foundEnd : Nat := 0

def Searching.gap (s : Showing) (g : Searching) (number : Nat) : List Octets :=
  match s.separator with
  | some sep => if g.shown ≠ 0 && g.shown + 1 < number then [s.tintSign sep ++ ['\n']] else []
  | none => []

def Showing.body (s : Showing) (m : Matcher) (line : Octets) : Octets :=
  if s.colored then
    let text := line.toArray
    let (out, last) := (m.parts text).foldl (fun (acc : Octets × Nat) (i, j) =>
      (acc.1 ++ (text.extract acc.2 i).toList ++ s.tint "01;31" (text.extract i j).toList, j)) ([], 0)
    out ++ (text.extract last text.size).toList
  else line

def Showing.line (s : Showing) (m : Matcher) (line : Octets) (number offset : Nat) : Octets :=
  if s.onlyParts then
    if s.inverted then []
    else
      let text := line.toArray
      (m.parts text).flatMap fun (i, j) =>
        s.lead ':' number (offset + i) ++ s.tint "01;31" (text.extract i j).toList ++ [s.ending]
  else s.lead ':' number offset ++ (if s.inverted then line else s.body m line) ++ [s.ending]

def Searching.lines (s : Showing) (m : Matcher) : Searching → List (Octets × Bool) → Searching × Bool
  | g, [] => (g, false)
  | g, (line, ended) :: ls =>
      let number := g.number + 1
      let next := g.offset + line.length + (if ended then 1 else 0)
      let enough := s.most.any (· ≤ g.found)
      if enough && g.following = 0 then (g, true)
      else if !enough && m.isIn line != s.inverted then
        if s.oneIsEnough then ({ g with found := 1, foundEnd := next }, true)
        else
          let earlier := if s.visible && !s.onlyParts then
              (g.recent.map fun (l, n, o) => (s.lead '-' n o ++ s.body m l ++ [s.ending], n))
            else []
          let first := ((earlier.getLast?).map (·.2)).getD number
          let out := if s.visible then
              s.line m line number g.offset :: earlier.map (·.1) ++ Searching.gap s g first ++ g.out
            else g.out
          Searching.lines s m { g with
            out := out, number := number, offset := next, recent := [], following := s.after, found := g.found + 1,
            shown := number, foundEnd := next } ls
      else if 0 < g.following then
        let out := if s.visible && !s.onlyParts then (s.lead '-' number g.offset ++ s.body m line ++ [s.ending]) :: g.out else g.out
        Searching.lines s m { g with
          out := out, number := number, offset := next, following := g.following - 1, shown := number } ls
      else
        let recent := if s.before = 0 then [] else ((line, number, g.offset) :: g.recent).take s.before
        Searching.lines s m { g with number := number, offset := next, recent := recent } ls

inductive PatternKind where
  | basic
  | extended
  | fixed
  | perl
  deriving DecidableEq, Repr

def readPatterns (kind : PatternKind) (patterns : List Octets) : Except Regex.Fault (List Regex) :=
  patterns.mapM fun p => match kind with
    | .fixed => .ok (Regex.literal p)
    | .basic => Regex.parse .basic p
    | .extended => Regex.parse .extendedSearch p
    | .perl => Regex.parse .perl p

def grepWords : List (String × String) :=
  [("basic-regexp", "G"), ("extended-regexp", "E"), ("fixed-regexp", "F"), ("fixed-strings", "F"), ("perl-regexp", "P"),
    ("after-context=", "A"), ("before-context=", "B"), ("binary-files=", "binary"), ("binary", "U"), ("byte-offset", "b"),
    ("context=", "C"), ("color=?", "color"), ("colour=?", "color"), ("count", "c"), ("devices=", "D"),
    ("directories=", "d"), ("exclude=", "exclude"), ("exclude-from=", "exclude"), ("exclude-dir=", "exclude-dir"),
    ("file=", "f"), ("files-with-matches", "l"), ("files-without-match", "L"), ("group-separator=", "separator"),
    ("include=", "include"), ("ignore-case", "i"), ("no-ignore-case", "no-i"), ("initial-tab", "T"), ("label=", "label"),
    ("line-buffered", "line-buffered"), ("line-number", "n"), ("line-regexp", "x"), ("max-count=", "m"),
    ("no-filename", "h"), ("no-group-separator", "no-separator"), ("no-messages", "s"), ("null", "Z"),
    ("null-data", "z"), ("only-matching", "o"), ("quiet", "q"), ("recursive", "r"), ("dereference-recursive", "R"),
    ("regexp=", "e"), ("invert-match", "v"), ("silent", "q"), ("text", "a"), ("unix-byte-offsets", "u"),
    ("with-filename", "H"), ("word-regexp", "w")]

def grepUsage (who : Octets) : Exec Nat := do
  write 2 ("Usage: ".toList ++ who ++ " [OPTION]... PATTERNS [FILE]...\n".toList)
  write 2 (hint who)
  return 2

def digitOptions (given : List (String × Octets)) : Option Nat :=
  let digits := given.filterMap fun g => match g.1.toList with
    | [c] => if c.isDigit then some c else none
    | _ => none
  Octets.nat? digits

def searchInput (s : Showing) (m : Matcher) (binaryName : Option Octets) : Exec (Except Tool.SystemError Searching) := do
  let place ← streamOf 0
  match ← readReady 0 with
  | .error e => return .error e
  | .ok (text, closed) => do
      let isBinary := binaryName.isSome && s.visible && text.contains '\x00'
      let most := match place with
        | some (_, .input _ whole) => whole.length + (if s.numbers then 1 else 0)
        | _ => 9223372036854775807
      let s := if s.tabs then { s with width := (Octets.ofNat most).length } else s
      let s := if isBinary then { s with visible := false, oneIsEnough := true } else s
      let lines := Octets.itemsEnding s.ending (if closed then text else
        (text.reverse.dropWhile (· ≠ s.ending)).reverse)
      let (g, early) := Searching.lines s m {} lines
      let early := early || (s.most.any (· ≤ g.found) && g.following = 0)
      for chunk in [g.out.reverse.flatten] do write 1 chunk
      if isBinary && g.found > 0 then
        complain "grep".toList (binaryName.getD [] ++ ": binary file matches".toList)
      if early && s.most.any (· ≤ g.found) then
        match place with
        | some (id, .input left whole) => setStream id (.input (left.drop g.foundEnd) whole)
        | _ => return .ok g
      if closed || early then return .ok g else starve 0

def filesUnder (files : Files) (working : List Bytes) (path : Octets) : List Octets :=
  match files.find working (Octets.toBytes path) with
  | .ok (place, .directory) =>
      let below := files.nodes.filter fun (p, node) => place.isPrefixOf p && place.length < p.length &&
        match node with
        | .file _ _ => true
        | _ => false
      let names := below.map fun (p, _) =>
        Octets.ofBytes ((p.drop place.length).flatMap fun name => 0x2F :: name)
      let base := if path.getLast? = some '/' then path.dropLast else path
      (names.mergeSort Octets.le).map (base ++ ·)
  | _ => [path]

def grepWith (standard : PatternKind) (who : Octets) (args : List Octets) : Exec Nat := do
  match (Grammar.read "0123456789A:B:C:D:EFGHILPTUVX:abcd:e:f:hiLlm:noqRrsuvwxyZz" grepWords).parse args with
  | .error e => do
      complain who e.text
      grepUsage who
  | .ok o =>
  if o.has "help" || o.has "V" || o.has "version" then
    write 1 "grep (GNU grep) 3.8\n".toList
    return 0
  let refuse := fun (text : Octets) => do
    complain who text
    return 2
  let kinds := (o.given.filterMap fun g => match g.1 with
    | "E" => some PatternKind.extended
    | "F" => some .fixed
    | "G" => some .basic
    | "P" => some .perl
    | _ => none).eraseDups
  if kinds.length > 1 then refuse "conflicting matchers specified".toList
  else
  let kind := kinds.headD standard
  let lengths := ["A", "B", "C"].map fun key => (o.value? key).map fun v => (v, Octets.nat? v)
  match lengths.findSome? fun l => match l with
    | some (v, none) => some v
    | _ => none with
  | some v => refuse (v ++ ": invalid context length argument".toList)
  | none =>
  let around := (((lengths[2]?).getD none).bind (·.2)) <|> digitOptions o.given
  let after := (((lengths[0]?).getD none).bind (·.2)) <|> around
  let before := (((lengths[1]?).getD none).bind (·.2)) <|> around
  let most := o.value? "m"
  if most.any fun v => (Octets.int? v).isNone then refuse "invalid max count".toList
  else do
  -- Patterns come from options, from files, or from the first operand.
  let fromFiles ← (o.values "f").mapM fun path => do
    match ← readOperand path with
    | .ok text => return Except.ok ((Octets.lines text).map (·.1))
    | .error e => return Except.error (path, e)
  match fromFiles.findSome? fun r => match r with
    | .error (path, e) => some (blamePath path e)
    | .ok _ => none with
  | some text => refuse text
  | none => do
  let direct := (o.values "e").flatMap fun p => Octets.splitOn (· = '\n') p
  let listed := fromFiles.flatMap fun r => match r with
    | .ok ls => ls
    | .error _ => []
  let named := o.has "e" || o.has "f"
  if !named && o.operands.isEmpty then grepUsage who
  else do
  let patterns := if named then direct ++ listed else Octets.splitOn (· = '\n') (o.operands.headD [])
  let paths := if named then o.operands else o.operands.tail
  match readPatterns kind patterns with
  | .error e => refuse e.message.toList
  | .ok regexes => do
      let inverted := o.has "v"
      let hopeless := most.any (fun v => Octets.int? v = some 0) ||
        (inverted && patterns == [[]] && !o.has "w" && !o.has "x")
      if hopeless then return 1
      let recursive := o.has "r" || o.has "R"
      let s ← get
      let everything := if recursive then
          (if paths.isEmpty then (filesUnder s.world.files s.working ['.']).map (·.drop 2)
           else paths.flatMap (filesUnder s.world.files s.working))
        else sources paths
      let several := everything.length > 1 || paths.length > 1 ||
        (recursive && everything != paths)
      let names := (o.given.filter fun g => g.1 == "H" || g.1 == "h").getLast?.map (·.1)
      let withNames := match names with
        | some key => key == "H"
        | none => several
      let ignoreCase := (o.given.filter fun g => g.1 == "i" || g.1 == "y" || g.1 == "no-i").getLast?.any (·.1 != "no-i")
      let m : Matcher := ⟨regexes, { ignoreCase := ignoreCase }, o.has "w", o.has "x", kind = .perl⟩
      let lists := (o.given.filter fun g => g.1 == "l" || g.1 == "L").getLast?.map (·.1)
      let quiet := o.has "q"
      let counts := o.has "c" && lists.isNone && !quiet
      let contexts := (after.isSome || before.isSome) && !o.has "no-separator"
      let ending := if o.has "z" then '\x00' else '\n'
      let rec search : List Octets → Nat → Bool → Exec (Nat × Bool)
        | [], found, bad => return (found, bad)
        | path :: rest, found, bad => do
            let label := if path == ['-'] then (o.value? "label").getD "(standard input)".toList else path
            let showing : Showing := {
              name := if withNames then some label else none, numbers := o.has "n", offsets := o.has "b", tabs := o.has "T",
              zeroAfterName := o.has "Z", onlyParts := o.has "o", ending := ending, before := before.getD 0,
              after := after.getD 0,
              separator := if contexts then some ((o.value? "separator").getD "--".toList) else none,
              most := (most.bind Octets.int?).bind fun n => if n < 0 then none else some n.toNat,
              inverted := inverted, visible := !quiet && lists.isNone && !counts, oneIsEnough := quiet || lists.isSome,
              colored := (o.value? "color").any fun v => ["always", "yes", "force"].contains (String.ofList v) }
            let opened ← openOperand path
            let result ← (match opened with
              | .error e => return .error e
              | .ok id => withFd 0 id (searchInput showing m (if o.has "a" || o.has "z" then none else some label)))
            match result with
            | .error e => do
                if !o.has "s" then complain who (blamePath path e)
                search rest found true
            | .ok g => do
                if quiet && g.found > 0 then return (1, false)
                if counts then
                  write 1 ((if withNames then showing.tintName label ++ (if o.has "Z" then ['\x00'] else showing.tintSign [':']) else []) ++ Octets.ofNat g.found ++ ['\n'])
                if lists.any fun key => (key == "l") == (g.found > 0) then
                  write 1 (showing.tintName label ++ [if o.has "Z" then '\x00' else '\n'])
                search rest (found + g.found) bad
      let (found, bad) ← search everything 0 false
      return if bad then 2 else if found > 0 then 0 else 1

def grep (who : Octets) (args : List Octets) : Exec Nat := grepWith .basic who args

def egrep (_ : Octets) (args : List Octets) : Exec Nat := grepWith .extended "grep".toList args

def fgrep (_ : Octets) (args : List Octets) : Exec Nat := grepWith .fixed "grep".toList args

end LintBridge.Shell.Program
