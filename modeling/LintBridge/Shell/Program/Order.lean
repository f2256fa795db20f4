import LintBridge.Shell.Program.Columns
import LintBridge.Shell.Real

namespace LintBridge.Shell.Program

open Exec

structure Decimal where
  negative : Bool
  whole : Octets
  part : Octets
  deriving DecidableEq, Repr

/-- The number that a text begins with, after blanks; zero if there is none. -/
def Decimal.read (cs : Octets) : Decimal × Octets :=
  let cs := cs.dropWhile fun c => c = ' ' || c = '\t' || c = '\n'
  let (negative, cs) := match cs with
    | '-' :: cs => (true, cs)
    | cs => (false, cs)
  let whole := cs.takeWhile Char.isDigit
  let after := cs.drop whole.length
  let (part, rest) := match after with
    | '.' :: after =>
        let part := after.takeWhile Char.isDigit
        (part, after.drop part.length)
    | after => ([], after)
  let whole := whole.dropWhile (· = '0')
  let part := (part.reverse.dropWhile (· = '0')).reverse
  (⟨negative && !(whole.isEmpty && part.isEmpty), whole, part⟩, rest)

def compareTexts (a b : Octets) : Ordering := if a == b then .eq else if Octets.le a b then .lt else .gt

def Decimal.compare (a b : Decimal) : Ordering :=
  let sizes := (Ord.compare a.whole.length b.whole.length).then
    ((compareTexts a.whole b.whole).then (compareTexts a.part b.part))
  match a.negative, b.negative with
  | false, false => sizes
  | true, true => sizes.swap
  | true, false => .lt
  | false, true => .gt

def unitOrder (d : Decimal) (rest : Octets) : Int :=
  let power : Nat := match rest.head? with
    | some 'k' => 1
    | some c => ((['K', 'M', 'G', 'T', 'P', 'E', 'Z', 'Y'].findIdx? (· = c)).map (· + 1)).getD 0
    | none => 0
  if d.whole.isEmpty && d.part.isEmpty then 0 else if d.negative then -(power : Int) else (power : Int)

def monthNumber (cs : Octets) : Nat :=
  let names := ["JAN", "FEB", "MAR", "APR", "MAY", "JUN", "JUL", "AUG", "SEP", "OCT", "NOV", "DEC"]
  let name := ((cs.dropWhile fun c => c = ' ' || c = '\t').take 3).map Char.toUpper
  ((names.findIdx? (·.toList == name)).map (· + 1)).getD 0

namespace Version

/-- The rank of a character between numbers; the end comes before all but a tilde. -/
def rank : Option Char → Int
  | none => -1
  | some c =>
      if c.isDigit then 0 else if c.isAlpha then c.toNat else if c = '~' then -2 else c.toNat + 256

def isText (c : Option Char) : Bool := c.any fun c => !c.isDigit

def compareText : Nat → Octets → Octets → Ordering × Octets × Octets
  | 0, a, b => (.eq, a, b)
  | n + 1, a, b =>
      if isText a.head? || isText b.head? then
        match Ord.compare (rank a.head?) (rank b.head?) with
        | .eq => compareText n a.tail b.tail
        | order => (order, a, b)
      else (.eq, a, b)

def compareParts : Nat → Octets → Octets → Ordering
  | 0, _, _ => .eq
  | n + 1, a, b =>
      if a.isEmpty && b.isEmpty then .eq
      else match compareText (a.length + b.length) a b with
        | (.eq, a, b) =>
            let a := a.dropWhile (· = '0')
            let b := b.dropWhile (· = '0')
            let x := a.takeWhile Char.isDigit
            let y := b.takeWhile Char.isDigit
            match (Ord.compare x.length y.length).then (compareTexts x y) with
            | .eq => compareParts n (a.drop x.length) (b.drop y.length)
            | order => order
        | (order, _, _) => order

def withoutEndings : Nat → Octets → Octets
  | 0, cs => cs
  | n + 1, cs =>
      let inside := fun c : Char => c.isAlphanum || c = '~'
      let ending := cs.takeWhile inside
      match ending.reverse.head?, cs.drop ending.length with
      | some c, '.' :: before => if c.isAlpha || c = '~' then withoutEndings n before else cs
      | _, _ => cs

def stem (cs : Octets) : Octets := (withoutEndings cs.length cs.reverse).reverse

def compare (a b : Octets) : Ordering :=
  let parts := fun (a b : Octets) => compareParts (a.length + b.length + 1) a b
  let rest := (parts (stem a) (stem b)).then (parts a b)
  let special := fun (cs : Octets) => if cs.isEmpty then 0 else if cs == ['.'] then 1 else if cs == ['.', '.'] then 2
    else if cs.head? = some '.' then 3 else 4
  if special a = special b then (if special a < 3 then .eq else rest) else Ord.compare (special a) (special b)

end Version

inductive SortKind where
  | text
  | numeric
  | general
  | human
  | month
  | version
  deriving DecidableEq, Repr

inductive SortValue where
  | text (cs : Octets)
  | decimal (unit : Int) (d : Decimal)
  | real (rank : Nat) (x : Float)
  | month (n : Nat)
  | version (cs : Octets)

def SortValue.compare : SortValue → SortValue → Ordering
  | .text a, .text b => compareTexts a b
  | .decimal u a, .decimal v b => (Ord.compare u v).then (a.compare b)
  | .real r x, .real q y => (Ord.compare r q).then (if x < y then .lt else if y < x then .gt else .eq)
  | .month a, .month b => Ord.compare a b
  | .version a, .version b => Version.compare a b
  | _, _ => .eq

structure KeyPlace where
  field : Nat
  char : Nat
  skipsBlanks : Bool := false
  deriving DecidableEq, Repr

structure SortOrder where
  kinds : List SortKind := []
  dictionary : Bool := false
  printing : Bool := false
  foldsCase : Bool := false
  reversed : Bool := false
  random : Bool := false
  deriving DecidableEq, Repr

def SortOrder.add? (s : SortOrder) (c : Char) : Option SortOrder :=
  match c with
  | 'd' => some { s with dictionary := true }
  | 'f' => some { s with foldsCase := true }
  | 'g' => some { s with kinds := s.kinds ++ [.general] }
  | 'h' => some { s with kinds := s.kinds ++ [.human] }
  | 'i' => some { s with printing := true }
  | 'M' => some { s with kinds := s.kinds ++ [.month] }
  | 'n' => some { s with kinds := s.kinds ++ [.numeric] }
  | 'R' => some { s with random := true }
  | 'r' => some { s with reversed := true }
  | 'V' => some { s with kinds := s.kinds ++ [.version] }
  | _ => none

def SortOrder.letters (s : SortOrder) : Octets :=
  (if s.dictionary then ['d'] else []) ++ (if s.foldsCase then ['f'] else []) ++
    (if s.kinds.contains .general then ['g'] else []) ++ (if s.kinds.contains .human then ['h'] else []) ++
    (if s.printing && !s.dictionary then ['i'] else []) ++ (if s.kinds.contains .month then ['M'] else []) ++
    (if s.kinds.contains .numeric then ['n'] else []) ++ (if s.random then ['R'] else []) ++
    (if s.kinds.contains .version then ['V'] else [])

def SortOrder.clashes (s : SortOrder) : Bool :=
  let numbers := ([SortKind.numeric, .general, .human, .month].filter s.kinds.contains).length
  let others := if s.kinds.contains .version || s.random || s.dictionary || s.printing then 1 else 0
  numbers + others > 1

structure SortKey where
  start : KeyPlace
  stop : Option KeyPlace
  order : SortOrder
  deriving DecidableEq, Repr

inductive KeyFault where
  | noNumber (place : String) (rest : Octets)
  | zero (what : String)
  | stray
  deriving DecidableEq, Repr

def KeyFault.text (key : Octets) : KeyFault → Octets
  | .noNumber place rest => "invalid number ".toList ++ place.toList ++ ": invalid count at start of ".toList ++ quotes rest
  | .zero what => what.toList ++ " is zero: invalid field specification ".toList ++ quotes key
  | .stray => "stray character in field spec: invalid field specification ".toList ++ quotes key

namespace SortKey

def count (place : String) (cs : Octets) : Except KeyFault (Nat × Octets) :=
  let ds := cs.takeWhile Char.isDigit
  if ds.isEmpty then .error (.noNumber place cs) else .ok (Octets.digitsValue ds, cs.drop ds.length)

def readPlace (place : String) (least : Nat) (standard : Nat) (cs : Octets) : Except KeyFault (KeyPlace × Octets) := do
  let (field, rest) ← count place cs
  if field = 0 then .error (.zero "field number")
  else match rest with
    | '.' :: rest => do
        let (char, rest) ← count "after '.'" rest
        if char < least then .error (.zero "character offset") else return (⟨field, char, false⟩, rest)
    | rest => return (⟨field, standard, false⟩, rest)

/-- The letters after a place; a `b` belongs to the place itself. -/
def readOrder (place : KeyPlace) (order : SortOrder) : Octets → KeyPlace × SortOrder × Octets
  | [] => (place, order, [])
  | c :: cs =>
      if c = 'b' then readOrder { place with skipsBlanks := true } order cs
      else match order.add? c with
        | some order => readOrder place order cs
        | none => (place, order, c :: cs)

def read (cs : Octets) : Except KeyFault SortKey := do
  let (start, rest) ← readPlace "at field start" 1 1 cs
  let (start, order, rest) := readOrder start {} rest
  match rest with
  | [] => return ⟨start, none, order⟩
  | ',' :: rest => do
      let (stop, rest) ← readPlace "after ','" 0 0 rest
      let (stop, order, rest) := readOrder stop order rest
      if rest.isEmpty then return ⟨start, some stop, order⟩ else .error .stray
  | _ => .error .stray

def isGap (c : Char) : Bool := c = ' ' || c = '\t' || c = '\n'

def dropFields (tab : Option Char) : Nat → Octets → Octets
  | 0, cs => cs
  | n + 1, cs =>
      match tab with
      | some t => dropFields tab n ((cs.dropWhile (· ≠ t)).drop 1)
      | none => dropFields tab n ((cs.dropWhile isGap).dropWhile fun c => !isGap c)

def lengthTo (tab : Option Char) (field : Nat) (cs : Octets) : Nat :=
  let before := dropFields tab (field - 1) cs
  let rest := match tab with
    | some t => before.dropWhile (· ≠ t)
    | none => (before.dropWhile isGap).dropWhile fun c => !isGap c
  cs.length - rest.length

def part (tab : Option Char) (k : SortKey) (line : Octets) : Octets :=
  let from' := dropFields tab (k.start.field - 1) line
  let from' := if k.start.skipsBlanks then from'.dropWhile isGap else from'
  let from' := from'.drop (k.start.char - 1)
  let begins := line.length - from'.length
  let ends := match k.stop with
    | none => line.length
    | some stop =>
        if stop.char = 0 then lengthTo tab stop.field line
        else
          let rest := dropFields tab (stop.field - 1) line
          let rest := if stop.skipsBlanks then rest.dropWhile isGap else rest
          min line.length (line.length - rest.length + stop.char)
  from'.take (ends - begins)

def valueOf (order : SortOrder) (text : Octets) : SortValue :=
  let kept := fun (text : Octets) =>
    let text := if order.dictionary then text.filter fun c => c.isAlphanum || c = ' ' || c = '\t' else text
    let text := if order.printing then text.filter fun c => ' ' ≤ c && c ≤ '~' else text
    if order.foldsCase then text.map Char.toUpper else text
  match order.kinds.head? with
  | some .numeric => .decimal 0 (Decimal.read text).1
  | some .human =>
      let (d, rest) := Decimal.read text
      .decimal (unitOrder d rest) d
  | some .general =>
      let (x, used) := Real.readFront (text.dropWhile isGap)
      if used = 0 then .real 0 0 else if x.isNaN then .real 1 0 else .real 2 x
  | some .month => .month (monthNumber text)
  | some .version => .version (kept text)
  | _ => .text (kept text)

end SortKey

structure Sorting where
  tab : Option Char
  keys : List SortKey
  reversed : Bool
  stable : Bool
  distinct : Bool

namespace Sorting

structure Line where
  text : Octets
  values : List SortValue

def line (s : Sorting) (text : Octets) : Line :=
  ⟨text, s.keys.map fun k => SortKey.valueOf k.order (SortKey.part s.tab k text)⟩

def compareValues : List SortKey → List SortValue → List SortValue → Ordering
  | k :: ks, a :: as, b :: bs =>
      match a.compare b with
      | .eq => compareValues ks as bs
      | order => if k.order.reversed then order.swap else order
  | _, _, _ => .eq

/-- The order of two lines. Those with the same keys are ordered by all of their bytes. -/
def compare (s : Sorting) (a b : Line) : Ordering :=
  let byKeys := compareValues s.keys a.values b.values
  if !s.keys.isEmpty && (s.stable || s.distinct) then byKeys
  else byKeys.then (let whole := compareTexts a.text b.text
    if s.reversed then whole.swap else whole)

def dedupe (s : Sorting) : List Line → List Line
  | a :: b :: ls => if s.compare a b = .eq then dedupe s (a :: ls) else a :: dedupe s (b :: ls)
  | ls => ls
termination_by ls => ls.length

def sorted (s : Sorting) (lines : List Octets) : List Octets :=
  let ordered := (lines.map s.line).mergeSort fun a b => s.compare a b != .gt
  (if s.distinct then s.dedupe ordered else ordered).map (·.text)

def mergeTwo (s : Sorting) : Nat → List Line → List Line → List Line
  | 0, as, bs => as ++ bs
  | _, [], bs => bs
  | _, as, [] => as
  | n + 1, a :: as, b :: bs =>
      if s.compare a b = .gt then b :: mergeTwo s n (a :: as) bs else a :: mergeTwo s n as (b :: bs)

def merged (s : Sorting) (texts : List (List Octets)) : List Octets :=
  let all := texts.foldl (fun acc lines =>
    let lines := lines.map s.line
    s.mergeTwo (acc.length + lines.length) acc lines) []
  (if s.distinct then s.dedupe all else all).map (·.text)

def disorder (s : Sorting) : Nat → List Line → Option (Nat × Octets)
  | n, a :: b :: ls =>
      let order := s.compare a b
      if order = .gt || (s.distinct && order = .eq) then some (n + 1, b.text) else disorder s (n + 1) (b :: ls)
  | _, _ => none

end Sorting

def blameSort : Blame := fun path e =>
  (if e = .code 21 then "read failed: " else "cannot read: ").toList ++ path ++ ": ".toList ++ e.plainText.toList

def sort (who : Octets) (args : List Octets) : Exec Nat :=
  withOptions who 2 "bcCdfghik:mMno:rRsS:t:T:uVyz" [("ignore-leading-blanks", "b"), ("dictionary-order", "d"),
    ("ignore-case", "f"), ("general-numeric-sort", "g"), ("human-numeric-sort", "h"), ("ignore-nonprinting", "i"),
    ("month-sort", "M"), ("numeric-sort", "n"), ("random-sort", "R"), ("reverse", "r"), ("version-sort", "V"),
    ("check=?", "check"), ("key=", "k"), ("merge", "m"), ("output=", "o"), ("stable", "s"), ("buffer-size=", "S"),
    ("field-separator=", "t"), ("temporary-directory=", "T"), ("unique", "u"), ("zero-terminated", "z"),
    ("parallel=", "parallel"), ("batch-size=", "batch"), ("compress-program=", "compress"), ("random-source=", "source"),
    ("sort=", "sort"), ("debug", "debug")] args fun o => do
    let refuse := fun (text : Octets) => do
      complain who text
      return 2
    let named := match (o.value? "sort").map String.ofList with
      | some "general-numeric" => ['g']
      | some "human-numeric" => ['h']
      | some "month" => ['M']
      | some "numeric" => ['n']
      | some "random" => ['R']
      | some "version" => ['V']
      | _ => []
    let letters := o.given.filterMap (fun g => if g.1.length = 1 then g.1.toList.head? else none) ++ named
    let whole := letters.foldl (fun (s : SortOrder) c => (s.add? c).getD s) {}
    match (o.values "k").findSome? fun k => match SortKey.read k with
      | .error e => some (KeyFault.text k e)
      | .ok _ => none with
    | some text => refuse text
    | none =>
    match (o.values "t").getLast? with
    | some [] => refuse "empty tab".toList
    | tab =>
    let tabChar := match tab with
      | some ['\\', '0'] => some '\x00'
      | some (c :: _) => some c
      | _ => none
    if tab.any fun t => t.length > 1 && t != ['\\', '0'] then refuse ("multi-character tab ".toList ++ quotes (tab.getD []))
    else
      let blanks := o.has "b"
      let own := (o.values "k").filterMap fun k => (SortKey.read k).toOption
      let inherit := fun (k : SortKey) =>
        if k.order = {} && !k.start.skipsBlanks && !(k.stop.any (·.skipsBlanks)) then
          { k with order := whole, start := { k.start with skipsBlanks := blanks },
                   stop := k.stop.map fun p => { p with skipsBlanks := blanks } }
        else k
      let keys := own.map inherit
      let plain : SortOrder := { whole with reversed := false }
      let keys := if !own.isEmpty then keys
        else if plain = {} && !blanks then []
        else [⟨⟨1, 1, blanks⟩, none, whole⟩]
      match keys.find? fun k => k.order.clashes with
      | some k => refuse ("options '-".toList ++ k.order.letters ++ "' are incompatible".toList)
      | none => do
          let s : Sorting := ⟨tabChar, keys, whole.reversed, o.has "s", o.has "u"⟩
          let ending := if o.has "z" then '\x00' else '\n'
          let linesOf := fun (text : Octets) => (Octets.itemsEnding ending text).map (·.1)
          let paths := sources o.operands
          let silent := o.has "C" || (o.values "check").any fun v => v == "silent".toList || v == "quiet".toList
          if silent || o.has "c" || o.has "check" then
            match paths with
            | _ :: extra :: _ =>
                refuse ("extra operand ".toList ++ quotes extra ++ " not allowed with -".toList ++ [if silent then 'C' else 'c'])
            | _ => do
                let path := paths.headD ['-']
                match ← readOperand path with
                | .error e => refuse ((if e = .code 21 then "read failed: " else "open failed: ").toList ++ blamePath path e)
                | .ok text => do
                    match s.disorder 1 ((linesOf text).map s.line) with
                    | none => return 0
                    | some (n, line) => do
                        if !silent then
                          complain who (path ++ ':' :: Octets.ofNat n ++ ": disorder: ".toList ++ line)
                        return 1
          else do
            let (texts, good) ← readOperands who blameSort paths
            if !good then return 2
            let out := if o.has "m" then s.merged (texts.map fun t => linesOf t.2)
              else s.sorted (texts.flatMap fun t => linesOf t.2)
            let out := out.flatMap (· ++ [ending])
            match o.value? "o" with
            | none => do
                write 1 out
                return 0
            | some path => do
                match ← openWrite path false with
                | .ok id => do
                    withFd 9 id (write 9 out)
                    return 0
                | .error e => refuse ("open failed: ".toList ++ blamePath path e)

/-- Groups of neighbouring lines with the same key. The group under way and those before it have their last parts
first. -/
def groupFrom (key : Octets → Octets) : List Octets → List (List Octets) → List Octets → List (List Octets)
  | [], groups, [] => groups.reverse
  | group, groups, [] => (group.reverse :: groups).reverse
  | [], groups, line :: ls => groupFrom key [line] groups ls
  | last :: group, groups, line :: ls =>
      if key last == key line then groupFrom key (line :: last :: group) groups ls
      else groupFrom key [line] ((last :: group).reverse :: groups) ls

def skipFields : Nat → Octets → Octets
  | 0, cs => cs
  | n + 1, cs => skipFields n ((cs.dropWhile isBlank').dropWhile fun c => !isBlank' c)
where isBlank' (c : Char) : Bool := c = ' ' || c = '\t' || c = '\n'

def uniq (who : Octets) (args : List Octets) : Exec Nat :=
  withOptions who 1 "cdDf:is:uw:z0123456789" [("count", "c"), ("repeated", "d"), ("all-repeated=?", "all"), ("skip-fields=", "f"),
    ("group=?", "group"), ("ignore-case", "i"), ("skip-chars=", "s"), ("unique", "u"), ("zero-terminated", "z"),
    ("check-chars=", "w")] args fun o => do
    let digits := o.given.filterMap fun g => match g.1.toList with
      | [c] => if c.isDigit then some c else none
      | _ => none
    let bad := fun (key : String) (what : String) => match (o.values key).find? fun v => (Octets.nat? v).isNone with
      | some v => [v ++ ": invalid number of ".toList ++ what.toList]
      | none => []
    match bad "f" "fields to skip" ++ bad "s" "bytes to skip" ++ bad "w" "bytes to compare" with
    | fault :: _ => do
        complain who fault
        return 1
    | [] =>
    let number := fun (key : String) => (o.value? key).bind Octets.nat?
    let fields := (number "f").getD (Octets.digitsValue digits)
    let skipped := (number "s").getD 0
    let all := o.has "D" || o.has "all"
    if o.operands.length > 2 then misuse who 1 ("extra operand ".toList ++ quotes ((o.operands[2]?).getD []))
    else if o.has "group" && (o.has "c" || o.has "d" || o.has "u" || all) then
      misuse who 1 "--group is mutually exclusive with -c/-d/-D/-u".toList
    else if all && o.has "c" then misuse who 1 "printing all duplicated lines and repeat counts is meaningless".toList
    else do
      let key := fun (line : Octets) =>
        let rest := (skipFields fields line).drop skipped
        let rest := match number "w" with
          | some w => rest.take w
          | none => rest
        if o.has "i" then rest.map Char.toLower else rest
      let ending := if o.has "z" then '\x00' else '\n'
      let show' := fun (line : Octets) => line ++ [ending]
      let path := (o.operands.head?).getD ['-']
      let render := fun (text : Octets) =>
        let groups := groupFrom key [] [] ((Octets.itemsEnding ending text).map (·.1))
        if o.has "group" then
          let method := String.ofList ((o.value? "group").getD [])
          let body := ([ending] : Octets).intercalate (groups.map fun g => g.flatMap show')
          let before := if (method == "prepend" || method == "both") && !groups.isEmpty then [ending] else []
          let after := if (method == "append" || method == "both") && !groups.isEmpty then [ending] else []
          before ++ body ++ after
        else if all then
          let method := String.ofList ((o.value? "all").getD [])
          let repeated := groups.filter fun g => g.length > 1
          let bodies := repeated.map fun g => g.flatMap show'
          if method == "prepend" then bodies.flatMap (ending :: ·)
          else if method == "separate" then ([ending] : Octets).intercalate bodies
          else bodies.flatten
        else
          let chosen := groups.filter fun g => (!o.has "d" || g.length > 1) && (!o.has "u" || g.length = 1)
          chosen.flatMap fun g =>
            (if o.has "c" then Octets.padLeft 7 ' ' (Octets.ofNat g.length) ++ [' '] else []) ++ show' (g.headD [])
      match ← readOperand path with
      | .error e => do
          complain who (blamePath path e)
          return 1
      | .ok text =>
          match o.operands with
          | [_, out] =>
              if out == ['-'] then do
                write 1 (render text)
                return 0
              else match ← openWrite out false with
                | .ok id => do
                    withFd 9 id (write 9 (render text))
                    return 0
                | .error e => do
                    complain who (blamePath out e)
                    return 1
          | _ => do
              write 1 (render text)
              return 0

/-- Items that wait for others: how many they wait for, and which wait for them, the newest first. -/
structure Waiting where
  name : Octets
  before : Nat := 0
  after : List Octets := []

def Waiting.change (f : Waiting → Waiting) (name : Octets) (items : List Waiting) : List Waiting :=
  if items.any (·.name == name) then items.map fun w => if w.name == name then f w else w
  else items ++ [f { name := name }]

/-- Notes that one item comes before another. An item named twice is only there. -/
def Waiting.relate : List Waiting → List Octets → List Waiting
  | items, a :: b :: rest =>
      let items := Waiting.change id b (Waiting.change id a items)
      let items := if a == b then items
        else Waiting.change (fun w => { w with before := w.before + 1 }) b
          (Waiting.change (fun w => { w with after := b :: w.after }) a items)
      Waiting.relate items rest
  | items, _ => items

def Waiting.take : Nat → List Octets → List Waiting → List Octets × List Waiting
  | 0, _, items => ([], items)
  | _, [], items => ([], items)
  | n + 1, name :: queue, items =>
      let after := ((items.find? (·.name == name)).map (·.after)).getD []
      let items := items.filter (·.name != name)
      let (items, freed) := after.foldl (fun (acc : List Waiting × List Octets) b =>
        let items := acc.1.map fun w => if w.name == b then { w with before := w.before - 1 } else w
        let free := items.any fun w => w.name == b && w.before = 0
        (items, if free then acc.2 ++ [b] else acc.2)) (items, [])
      let (names, items) := Waiting.take n (queue ++ freed) items
      (name :: names, items)

def tsort (who : Octets) (args : List Octets) : Exec Nat :=
  withOptions who 1 "" [] args fun o => do
    let path := (o.operands.head?).getD ['-']
    match o.operands with
    | _ :: extra :: _ => misuse who 1 ("extra operand ".toList ++ quotes extra)
    | _ => do
        match ← readOperand path with
        | .error e => do
            complain who (blamePath path e)
            return 1
        | .ok text => do
            let words := Octets.fields text
            if words.length % 2 = 1 then
              complain who (path ++ ": input contains an odd number of tokens".toList)
              return 1
            let items := Waiting.relate [] words
            let free := ((items.filter (·.before = 0)).map (·.name)).mergeSort Octets.le
            let (names, left) := Waiting.take (items.length + 1) free items
            if left.isEmpty then
              write 1 (Octets.unlines names)
              return 0
            else do
              complain who (path ++ ": input contains a loop:".toList)
              for w in left do complain who w.name
              write 1 (Octets.unlines (names ++ left.map (·.name)))
              return 1

/-- Lines in an order that nobody can foresee: here the one in which they come. -/
def shuf (who : Octets) (args : List Octets) : Exec Nat :=
  withOptions who 1 "ei:n:o:rz" [("echo", "e"), ("input-range=", "i"), ("head-count=", "n"), ("output=", "o"),
    ("repeat", "r"), ("zero-terminated", "z"), ("random-source=", "source")] args fun o => do
    let most := (o.value? "n").bind Octets.nat?
    let emit := fun (lines : List Octets) => do
      write 1 (Octets.unlines (match most with
        | some n => lines.take n
        | none => lines))
      return 0
    match o.value? "i" with
    | some range =>
        let low := range.takeWhile (· ≠ '-')
        match Octets.nat? low, Octets.nat? (range.drop (low.length + 1)) with
        | some a, some b =>
            if b + 1 < a then do
              complain who ("invalid input range: ".toList ++ quotes range)
              return 1
            else emit ((List.range' a (b + 1 - a)).map Octets.ofNat)
        | _, _ => do
            complain who ("invalid input range: ".toList ++ quotes range)
            return 1
    | none =>
        if o.has "e" then emit o.operands
        else do
          let (texts, good) ← readOperands who blamePath (sources o.operands)
          if !good then return 1
          emit ((Octets.lines (texts.flatMap (·.2))).map (·.1))

end LintBridge.Shell.Program
