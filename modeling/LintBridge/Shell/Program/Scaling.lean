import LintBridge.Shell.Program.Columns
import LintBridge.Shell.Wide

namespace LintBridge.Shell.Program

open Exec

namespace Scaling

inductive Scale where
  | none
  | auto
  | si
  | iec
  | iecI
  deriving DecidableEq, Repr

def Scale.base : Scale → Int
  | .iec => 1024
  | .iecI => 1024
  | _ => 1000

inductive Rounding where
  | up
  | down
  | fromZero
  | towardsZero
  | nearest
  deriving DecidableEq, Repr

inductive OnFault where
  | abort
  | fail
  | warn
  | ignore
  deriving DecidableEq, Repr

structure Style where
  source : Scale := .none
  goal : Scale := .none
  sourceUnit : Nat := 1
  goalUnit : Nat := 1
  rounding : Rounding := .fromZero
  padding : Nat := 0
  leftAligned : Bool := false
  keepsWidth : Bool := true
  zeros : Nat := 0
  precision : Option Nat := none
  before : Octets := []
  after : Octets := []
  suffix : Octets := []
  delimiter : Option Char := none
  fields : List Span := [⟨1, some 1⟩]
  onFault : OnFault := .abort
  headers : Nat := 0

inductive Fault where
  | overflow (text : Octets)
  | invalid (text : Octets)
  | forbiddenSuffix (text : Octets)
  | invalidSuffix (text : Octets)
  | trailing (text rest : Octets)
  | missingI (text : Octets)
  | tooPrecise (value : Wide) (precision : Nat)
  | tooLarge (value : Wide)
  | beyondUnits (value : Wide)

def Fault.message : Fault → Octets
  | .overflow text => "value too large to be converted: ".toList ++ quotes text
  | .invalid text => "invalid number: ".toList ++ quotes text
  | .forbiddenSuffix text => "rejecting suffix in input: ".toList ++ quotes text ++ " (consider using --from)".toList
  | .invalidSuffix text => "invalid suffix in input: ".toList ++ quotes text
  | .trailing text rest => "invalid suffix in input ".toList ++ quotes text ++ ": ".toList ++ quotes rest
  | .missingI text => "missing 'i' suffix in input: ".toList ++ quotes text ++ " (e.g Ki/Mi/Gi)".toList
  | .tooPrecise value precision => "value/precision too large to be printed: ".toList ++
      quotes (value.general ++ '/' :: Octets.ofNat precision) ++ " (consider using --to)".toList
  | .tooLarge value => "value too large to be printed: ".toList ++ quotes value.general ++ " (consider using --to)".toList
  | .beyondUnits value =>
      "value too large to be printed: ".toList ++ quotes value.general ++ " (cannot handle values > 999Y)".toList

def letters : Octets := "KMGTPEZY".toList

def maxPlainDigits : Nat := 18
def maxDigits : Nat := 27

def readDigits (text : Octets) : Option Wide :=
  let digits := text.takeWhile Char.isDigit
  if (digits.dropWhile (· = '0')).length > maxDigits then none
  else some (digits.foldl (fun x c => (x.mul (.ofInt 10)).add (.ofInt (c.toNat - 48))) (.ofInt 0))

def readNumber (text : Octets) : Except Fault (Wide × Nat × Octets) := do
  let (negative, body) := match text with
    | '-' :: cs => (true, cs)
    | cs => (false, cs)
  let whole := body.takeWhile Char.isDigit
  let rest := body.drop whole.length
  let some x := readDigits whole | .error (.overflow text)
  match rest with
  | '.' :: cs =>
      let fraction := cs.takeWhile Char.isDigit
      if fraction.isEmpty && cs.head? ≠ some '.' then .error (.invalid text)
      let some f := readDigits fraction | .error (.overflow text)
      let x := x.add (f.div ((Wide.ofInt 10).power fraction.length))
      return (if negative then x.neg else x, fraction.length, cs.drop fraction.length)
  | _ =>
      if whole.isEmpty then .error (.invalid text)
      return (if negative then x.neg else x, 0, rest)

def read (s : Style) (text : Octets) : Except Fault (Wide × Nat) := do
  let (x, places, rest) ← readNumber text
  let (power, base, places, rest) ← (match rest.dropWhile isBlank, rest.isEmpty with
    | _, true => .ok (0, s.source.base, places, rest)
    | [], false => .error (.invalidSuffix text)
    | c :: cs, false =>
        match letters.findIdx? (· = c) with
        | none => .error (.invalidSuffix text)
        | some i =>
            if s.source = .none then .error (.forbiddenSuffix text)
            else if s.source = .auto && cs.head? = some 'i' then .ok (i + 1, 1024, 0, cs.tail)
            else .ok (i + 1, s.source.base, 0, cs) : Except Fault (Nat × Int × Nat × Octets))
  let rest ← (if s.source = .iecI then
      match rest with
      | 'i' :: rest => .ok rest
      | _ => .error (.missingI text)
    else .ok rest : Except Fault Octets)
  if !rest.isEmpty then .error (.trailing text rest)
  return (x.mul ((Wide.ofInt base).power power), places)
where
  isBlank (c : Char) : Bool := c = ' ' || c = '\t'

def round (r : Rounding) (x : Wide) : Wide :=
  let half : Wide := ⟨1, 2⟩
  .ofInt (match r with
    | .up => x.ceiling
    | .down => x.floor
    | .fromZero => if x.num < 0 then x.floor else x.ceiling
    | .towardsZero => x.truncate
    | .nearest => if x.num < 0 then (x.sub half).truncate else (x.add half).truncate)

def roundAt (r : Rounding) (places : Nat) (x : Wide) : Wide :=
  let unit := (Wide.ofInt 10).power places
  (round r (x.mul unit)).div unit

def normalize (base : Wide) : Nat → Wide → Nat → Wide × Nat
  | 0, x, power => (x, power)
  | n + 1, x, power => if x.abs.less base then (x, power) else normalize base n (x.div base) (power + 1)

def zeroPadded (width : Nat) (text : Octets) : Octets :=
  match text with
  | '-' :: digits => '-' :: Octets.padLeft (width - 1) '0' digits
  | digits => Octets.padLeft width '0' digits

def write (s : Style) (x : Wide) (places : Nat) : Octets :=
  if s.goal = .none then zeroPadded s.zeros ((roundAt s.rounding places x).fixed places)
  else
    let base := Wide.ofInt s.goal.base
    let ten := Wide.ofInt 10
    let (x, power) := normalize base 100 x 0
    let adjust := match s.precision with
      | some p => min (power * 3) p
      | none => if x.abs.less ten then 1 else 0
    let x := roundAt s.rounding adjust x
    let (x, power) := if x.abs.less base then (x, power) else (x.div base, power + 1)
    let places := s.precision.getD (if x.num ≠ 0 && x.abs.less ten && 0 < power then 1 else 0)
    let letter := if power = 0 then [] else ((letters[power - 1]?).map ([·])).getD "(error)".toList
    zeroPadded s.zeros (x.fixed places) ++ letter ++ (if s.goal = .iecI && 0 < power then ['i'] else [])

def display (s : Style) (padding : Nat) (x : Wide) (places : Nat) : Except Fault Octets :=
  let used := s.precision.getD places
  let (_, digits) := normalize (.ofInt 10) 100 x 0
  if s.goal = .none && maxPlainDigits < digits + used then
    .error (if used = 0 then .tooLarge x else .tooPrecise x used)
  else if maxDigits - 1 < digits then .error (.beyondUnits x)
  else
    let text := write s x used ++ s.suffix
    .ok (s.before ++ (if s.leftAligned then Octets.padRight padding ' ' text else Octets.padLeft padding ' ' text) ++ s.after)

def field (s : Style) (i : Nat) (text : Octets) : Except (Fault × Octets) Octets :=
  let text := if !s.suffix.isEmpty && s.suffix.length < text.length && s.suffix.isSuffixOf text then
    text.take (text.length - s.suffix.length) else text
  let number := text.dropWhile fun c => c = ' ' || c = '\t'
  let padding := if !s.keepsWidth then s.padding
    else if number.length < text.length || 1 < i then text.length else 0
  let shown : Except Fault Octets := do
    let (x, places) ← read s number
    let x := if s.sourceUnit ≠ 1 || s.goalUnit ≠ 1 then (x.mul (.ofInt s.sourceUnit)).div (.ofInt s.goalUnit) else x
    display s padding x places
  shown.mapError fun fault => (fault, text)

def nextField (s : Style) (line : Octets) : Octets × Octets :=
  match s.delimiter with
  | some d => (line.takeWhile (· ≠ d), line.dropWhile (· ≠ d))
  | none =>
      let isSeparator := fun c : Char => c = ' ' || c = '\t' || c = '\n'
      let blanks := line.takeWhile isSeparator
      let body := line.drop blanks.length
      (blanks ++ body.takeWhile (!isSeparator ·), body.dropWhile (!isSeparator ·))

structure Outcome where
  text : List Octets := []
  faults : List Octets := []
  isAborted : Bool := false

def Outcome.add (r : Outcome) (s : Style) : Except (Fault × Octets) Octets → Outcome
  | .ok text => { r with text := text :: r.text }
  | .error (fault, text) =>
      let faults := if s.onFault = .ignore then r.faults else fault.message :: r.faults
      if s.onFault = .abort then { r with faults := faults, isAborted := true }
      else { r with text := text :: r.text, faults := faults }

def line (s : Style) : Nat → Nat → Outcome → Octets → Outcome
  | 0, _, r, _ => r
  | n + 1, i, r, text =>
      let (word, rest) := nextField s text
      let r := if s.fields.any (·.holds i) then r.add s (field s i word) else r.add s (.ok word)
      if r.isAborted then r
      else match rest with
        | [] => r
        | _ :: rest => line s n (i + 1) (r.add s (.ok [s.delimiter.getD ' '])) rest

def lines (s : Style) (ending : Char) : Outcome → List (Octets × Bool) → Outcome
  | r, [] => r
  | r, (text, ended) :: ls =>
      let r := line s (text.length + 1) 1 r text
      if r.isAborted then r else lines s ending (if ended then r.add s (.ok [ending]) else r) ls

end Scaling

/-- The value that a word stands for; it may be cut short as long as it is clear. -/
def choice? {α : Type} [BEq α] (choices : List (String × α)) (word : Octets) : Except Bool α :=
  match choices.find? fun c => c.1.toList == word with
  | some (_, value) => .ok value
  | none =>
      match choices.filter fun c => word.isPrefixOf c.1.toList with
      | [] => .error false
      | (_, value) :: more => if more.all (·.2 == value) then .ok value else .error true

def refuseChoice (option : String) (choices : List String) (isAmbiguous : Bool) (word : Octets) : Octets :=
  (if isAmbiguous then "ambiguous argument " else "invalid argument ").toList ++ quotes word ++ " for ".toList ++
    quotes option.toList ++ "\nValid arguments are:".toList ++ choices.flatMap fun c => "\n  - ".toList ++ quotes c.toList

namespace Scaling

structure Misuse where
  text : Octets
  hinted : Bool := false

def sourceScales : List (String × Scale) := [("none", .none), ("auto", .auto), ("si", .si), ("iec", .iec), ("iec-i", .iecI)]

def goalScales : List (String × Scale) := [("none", .none), ("si", .si), ("iec", .iec), ("iec-i", .iecI)]

def roundings : List (String × Rounding) :=
  [("up", .up), ("down", .down), ("from-zero", .fromZero), ("towards-zero", .towardsZero), ("nearest", .nearest)]

def onFaults : List (String × OnFault) := [("abort", .abort), ("fail", .fail), ("warn", .warn), ("ignore", .ignore)]

def choose {α : Type} [BEq α] (key : String) (choices : List (String × α)) (word : Octets) : Except Misuse α :=
  (choice? choices word).mapError fun ambiguous => ⟨refuseChoice ("--" ++ key) (choices.map (·.1)) ambiguous word, true⟩

def unitSize (text : Octets) : Except Misuse Nat :=
  let digits := text.takeWhile Char.isDigit
  let found := (Octets.nat? digits).bind fun n =>
    match text.drop digits.length with
    | [] => some n
    | [c] => (letters.findIdx? (· = c)).map fun i => n * Nat.pow 1000 (i + 1)
    | [c, 'i'] => (letters.findIdx? (· = c)).map fun i => n * Nat.pow 1024 (i + 1)
    | _ => none
  match found with
  | some (n + 1) => .ok (n + 1)
  | _ => .error ⟨"invalid unit size: ".toList ++ quotes text, false⟩

/-- The end of the text before a directive; none if there is no directive. -/
def directiveAt : Octets → Nat → Nat → Option (Nat × Nat)
  | '%' :: '%' :: cs, i, n => directiveAt cs (i + 2) (n + 1)
  | '%' :: _, i, n => some (i, n)
  | _ :: cs, i, n => directiveAt cs (i + 1) (n + 1)
  | [], _, _ => none

/-- Skips flags: blanks, zeros and the mark for groups. Returns whether zeros are asked for. -/
def skipFlags : Octets → Bool → Octets × Bool
  | ' ' :: cs, zeros => skipFlags cs zeros
  | '\x27' :: cs, zeros => skipFlags cs zeros
  | '0' :: cs, _ => skipFlags cs true
  | cs, zeros => (cs, zeros)

def readFormat (s : Style) (format : Octets) : Except Misuse Style := do
  let misuse := fun (before after : String) => Misuse.mk (before.toList ++ quotes format ++ after.toList) false
  let some (start, count) := directiveAt format 0 0 | .error (misuse "format " " has no % directive")
  let (body, zeros) := skipFlags (format.drop (start + 1)) false
  let (negative, digits) := match body with
    | '-' :: cs => (true, cs.takeWhile Char.isDigit)
    | cs => (false, cs.takeWhile Char.isDigit)
  let rest := if digits.isEmpty then body else body.drop (digits.length + (if negative then 1 else 0))
  let width := Octets.digitsValue digits
  if 9223372036854775807 < width then .error (misuse "invalid format " " (width overflow)")
  let s := if width = 0 then s
    else if negative then { s with leftAligned := true, padding := width }
    else if zeros then { s with zeros := width }
    else { s with padding := width }
  if rest.isEmpty then .error (misuse "format " " ends in %")
  let (s, rest) ← (match rest with
    | '.' :: cs =>
        let ds := cs.takeWhile Char.isDigit
        if ds.isEmpty && (["-", "+", " ", "\t"].map (·.toList.head?)).contains cs.head? then
          .error (misuse "invalid precision in format " "")
        else .ok ({ s with precision := some (Octets.digitsValue ds) }, cs.drop ds.length)
    | rest => .ok (s, rest) : Except Misuse (Style × Octets))
  match rest with
  | 'f' :: after =>
      if (directiveAt after 0 0).isSome then .error (misuse "format " " has too many % directives")
      else return { s with before := format.take count, after := after }
  | _ => .error (misuse "invalid format " ", directive must be %[0][\x27][-][N][.][N]f")

def fieldList (text : Octets) : Except Misuse (List Span) :=
  if text == ['-'] then .ok [⟨1, none⟩]
  else (Span.readAll text).mapError fun fault => ⟨cutFault true fault, true⟩

def Style.addOption (s : Style) (option : String × Octets) : Except Misuse Style := do
  let (key, value) := option
  match key with
  | "from" => return { s with source := ← choose key sourceScales value }
  | "to" => return { s with goal := ← choose key goalScales value }
  | "round" => return { s with rounding := ← choose key roundings value }
  | "invalid" => return { s with onFault := ← choose key onFaults value }
  | "from-unit" => return { s with sourceUnit := ← unitSize value }
  | "to-unit" => return { s with goalUnit := ← unitSize value }
  | "padding" =>
      match Octets.int? value with
      | some (n + 1 : Nat) => return { s with padding := n + 1, leftAligned := false }
      | some (.negSucc n) => return { s with padding := n + 1, leftAligned := true }
      | _ => .error ⟨"invalid padding value ".toList ++ quotes value, false⟩
  | "suffix" => return { s with suffix := value }
  | "d" =>
      if 1 < value.length then .error ⟨"the delimiter must be a single character".toList, false⟩
      else return { s with delimiter := some (value.headD '\x00') }
  | "field" => return { s with fields := ← fieldList value }
  | "header" =>
      if value.isEmpty then return { s with headers := 1 }
      else match Octets.nat? value with
        | some (n + 1) => return { s with headers := n + 1 }
        | _ => .error ⟨"invalid header value ".toList ++ quotes value, false⟩
  | _ => return s

def readStyle (o : Options) : Except Misuse Style := do
  let s ← o.given.foldlM Style.addOption {}
  if o.has "grouping" && o.has "format" then .error ⟨"--grouping cannot be combined with --format".toList, false⟩
  if o.has "grouping" && s.goal ≠ .none then .error ⟨"grouping cannot be combined with --to".toList, false⟩
  let s ← (match o.value? "format" with
    | some format => readFormat s format
    | none => .ok s)
  return { s with keepsWidth := s.padding = 0 && s.delimiter.isNone }

end Scaling

def numfmt (who : Octets) (args : List Octets) : Exec Nat :=
  withOptions who 1 "d:z" [("from=", "from"), ("from-unit=", "from-unit"), ("to=", "to"), ("to-unit=", "to-unit"), ("round=", "round"),
    ("padding=", "padding"), ("suffix=", "suffix"), ("grouping", "grouping"), ("delimiter=", "d"), ("field=", "field"),
    ("debug", "debug"), ("header=?", "header"), ("format=", "format"), ("invalid=", "invalid"), ("zero-terminated", "z")]
    args fun o => do
    match Scaling.readStyle o with
    | .error fault => if fault.hinted then misuse who 1 fault.text else do
        complain who fault.text
        return 1
    | .ok s => do
        let ending := if o.has "z" then '\x00' else '\n'
        let (kept, items) ← (if o.operands.isEmpty then do
            let items := Octets.itemsEnding ending (((← readOperand ['-']).toOption).getD [])
            return (joinItems ending (items.take s.headers), items.drop s.headers)
          else return ([], o.operands.map fun arg => (arg, true)) : Exec (Octets × List (Octets × Bool)))
        let r := Scaling.lines s ending {} items
        for fault in r.faults.reverse do complain who fault
        write 1 (kept ++ r.text.reverse.flatten)
        return if r.isAborted || (!r.faults.isEmpty && s.onFault = .fail) then 2 else 0
where
  joinItems (ending : Char) (items : List (Octets × Bool)) : Octets :=
    items.flatMap fun (item, ended) => item ++ (if ended then [ending] else [])

end LintBridge.Shell.Program
