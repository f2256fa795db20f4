import LintBridge.Shell.Program.Input
import LintBridge.Shell.Format
import LintBridge.Shell.Regex.Search

namespace LintBridge.Shell.Program

open Exec

structure SeqNumber where
  units : Int
  places : Nat
  width : Nat
  precision : Nat
  infinite : Bool := false
  deriving DecidableEq, Repr

namespace SeqNumber

def scaled (x : SeqNumber) (places : Nat) : Int := x.units * (Nat.pow 10 (places - x.places) : Nat)

def read? (text : Octets) : Option SeqNumber :=
  let text := text.dropWhile fun c => c = ' ' || ('\t' ≤ c && c ≤ '\x0d')
  let shown := text.dropWhile (· = '+')
  let (negative, body) := match text with
    | '-' :: cs => (true, cs)
    | '+' :: cs => (false, cs)
    | cs => (false, cs)
  let lower := String.ofList (body.map Char.toLower)
  if lower == "inf" || lower == "infinity" then some ⟨if negative then -1 else 1, 0, 0, 0, true⟩
  else match body with
    | '0' :: x :: digits =>
        if (x = 'x' || x = 'X') && !digits.isEmpty && digits.all fun c => (Format.hex? c).isSome then
          let n := digits.foldl (fun n c => n * 16 + (Format.hex? c).getD 0) 0
          some ⟨if negative then -(n : Int) else n, 0, 0, 0, false⟩
        else decimal negative shown body
    | body => decimal negative shown body
where
  decimal (negative : Bool) (shown body : Octets) : Option SeqNumber :=
    let whole := body.takeWhile Char.isDigit
    let after := body.drop whole.length
    let hasPoint := after.head? = some '.'
    let (part, rest) := match after with
      | '.' :: after =>
          let part := after.takeWhile Char.isDigit
          (part, after.drop part.length)
      | after => ([], after)
    let exponent : Option Int := match rest with
      | [] => some 0
      | e :: ds => if e = 'e' || e = 'E' then Octets.int? ds else none
    match exponent with
    | none => none
    | some e =>
        if whole.isEmpty && part.isEmpty then none
        else
          let digits := Octets.digitsValue (whole ++ part)
          let value : Int := if negative then -(digits : Int) else digits
          let (units, places) : Int × Nat :=
            if e < 0 then (value, part.length + e.natAbs)
            else if e.natAbs ≤ part.length then (value, part.length - e.natAbs)
            else (value * (Nat.pow 10 (e.natAbs - part.length) : Nat), 0)
          -- How much room the number takes once it is written without an exponent.
          let base : Int := shown.length
          let base := if hasPoint then base + (if part.isEmpty then -1 else if whole.isEmpty then 1 else 0) else base
          let precision : Int := part.length
          let (precision, base) : Int × Int :=
            if rest.isEmpty then (precision, base)
            else
              let precision := precision + (if e < 0 then -e else -(min precision e))
              let base := base - rest.length
              if e < 0 then
                let base := if hasPoint then (if part.isEmpty then base + 1 else base) else base + 1
                (precision, base + -e)
              else
                let base := if hasPoint && precision = 0 && !part.isEmpty then base - 1 else base
                (precision, base + (e - min (part.length : Int) e))
          some ⟨units, places, base.toNat, precision.toNat, false⟩

end SeqNumber

def placesText (places : Nat) (units : Int) : Octets :=
  let digits := Octets.padLeft (places + 1) '0' (Octets.ofNat units.natAbs)
  let whole := digits.take (digits.length - places)
  let text := if places = 0 then whole else whole ++ '.' :: digits.drop whole.length
  if units < 0 then '-' :: text else text

def zeroFilled (width : Nat) (text : Octets) : Octets :=
  match text with
  | '-' :: text => '-' :: Octets.padLeft (width - 1) '0' text
  | text => Octets.padLeft width '0' text

structure SeqFormat where
  before : Octets
  spec : Format.Spec
  letter : Char
  after : Octets

inductive SeqFault where
  | noDirective
  | endsInPercent
  | unknown (c : Char)
  | tooMany
  deriving DecidableEq, Repr

def SeqFault.text (format : Octets) : SeqFault → Octets
  | .noDirective => "format ".toList ++ quotes format ++ " has no % directive".toList
  | .endsInPercent => "format ".toList ++ quotes format ++ " ends in %".toList
  | .unknown c => "format ".toList ++ quotes format ++ " has unknown %".toList ++ c :: " directive".toList
  | .tooMany => "format ".toList ++ quotes format ++ " has too many % directives".toList

namespace SeqFormat

/-- Plain text up to a directive; two percent signs stand for one. -/
def plain : Octets → Octets → Octets × Option Octets
  | out, '%' :: '%' :: cs => plain ('%' :: out) cs
  | out, '%' :: cs => (out.reverse, some cs)
  | out, c :: cs => plain (c :: out) cs
  | out, [] => (out.reverse, none)

def read (format : Octets) : Except SeqFault SeqFormat :=
  match plain [] format with
  | (_, none) => .error .noDirective
  | (before, some rest) =>
      let flags := rest.takeWhile fun c => Format.isFlag c || c = '\x27'
      let afterFlags := rest.drop flags.length
      let width := afterFlags.takeWhile Char.isDigit
      let afterWidth := afterFlags.drop width.length
      let (precision, afterPrecision) : Option Nat × Octets := match afterWidth with
        | '.' :: cs =>
            let ds := cs.takeWhile Char.isDigit
            (some ((Octets.nat? ds).getD 0), cs.drop ds.length)
        | cs => (none, cs)
      let afterLength := match afterPrecision with
        | 'L' :: cs => cs
        | cs => cs
      match afterLength with
      | [] => .error .endsInPercent
      | c :: after =>
          if !"efgaEFGA".toList.contains c then .error (.unknown c)
          else match plain [] after with
            | (_, some _) => .error .tooMany
            | (after, none) =>
                .ok ⟨before, {
                  left := flags.contains '-', zero := flags.contains '0', plus := flags.contains '+',
                  blank := flags.contains ' ', alternate := flags.contains '#', width := (Octets.nat? width).getD 0,
                  precision := precision }, c, after⟩

def text (f : SeqFormat) (places : Nat) (units : Int) : Octets :=
  let x := Float.ofScientific units.natAbs true places
  f.before ++ Format.real f.spec f.letter (if units < 0 then -x else x) ++ f.after

end SeqFormat

def seqChunk : Nat := 1000

def writeNumbers (separator : Octets) (text : Nat → Octets) (count : Nat) : Nat → Nat → Exec Unit
  | 0, _ => return
  | n + 1, i => do
      let most := min count (i + seqChunk)
      write 1 ((List.range' i (most - i)).flatMap fun k => (if k = 0 then [] else separator) ++ text k)
      if most < count then writeNumbers separator text count n most

/-- Numbers may begin with a hyphen, so they end the options. -/
def splitNumbers : List Octets → List Octets × List Octets
  | [] => ([], [])
  | arg :: args =>
      match arg with
      | '-' :: c :: _ => if c.isDigit || c = '.' then ([], arg :: args) else
          let (options, rest) := splitNumbers args
          (arg :: options, rest)
      | _ =>
          let (options, rest) := splitNumbers args
          (arg :: options, rest)

def seq (who : Octets) (args : List Octets) : Exec Nat :=
  let (front, numbers) := splitNumbers args
  withOptions who 1 "+f:s:w" [("equal-width", "w"), ("format=", "f"), ("separator=", "s")] front fun o => do
    let operands := o.operands ++ numbers
    let bad := operands.find? fun a => (SeqNumber.read? a).isNone
    if operands.isEmpty then misuse who 1 "missing operand".toList
    else if operands.length > 3 then misuse who 1 ("extra operand ".toList ++ quotes ((operands[3]?).getD []))
    else match bad with
    | some a =>
        if String.ofList (a.map Char.toLower) == "nan" then
          misuse who 1 ("invalid 'not-a-number' argument: ".toList ++ quotes a)
        else misuse who 1 ("invalid floating point argument: ".toList ++ quotes a)
    | none =>
    match (o.value? "f").map SeqFormat.read with
    | some (.error e) => do
        complain who (e.text ((o.value? "f").getD []))
        return 1
    | given => do
    let format := given.bind Except.toOption
    let one : SeqNumber := ⟨1, 0, 1, 0, false⟩
    let (first, step, last) := match operands.filterMap SeqNumber.read? with
      | [a] => (one, one, a)
      | [a, b] => (a, one, b)
      | [a, b, c] => (a, b, c)
      | _ => (one, one, one)
    if step.units = 0 then
      misuse who 1 ("invalid Zero increment value: ".toList ++ quotes ((operands[1]?).getD []))
    else do
      let places := max first.places (max step.places last.places)
      let precision := max first.precision step.precision
      let start := first.scaled places
      let step' := step.scaled places
      let goal := last.scaled places
      let widthOf := fun (x : SeqNumber) =>
        let w := x.width + (precision - x.precision)
        if x.precision = 0 && precision > 0 then w + 1 else w
      let lastWidth := (last.width : Int) + (precision : Int) - last.precision +
        (if last.precision > 0 && precision = 0 then -1 else if last.precision = 0 && precision > 0 then 1 else 0)
      let width := max (widthOf first) lastWidth.toNat
      let unit := Nat.pow 10 (places - precision)
      let text := fun (i : Nat) =>
        let units := start + step' * (i : Int)
        match format with
        | some f => f.text places units
        | none =>
            let plain := placesText precision (units.tdiv (unit : Nat))
            if o.has "w" then zeroFilled width plain else plain
      let separator := (o.value? "s").getD ['\n']
      let upward := 0 < step'
      if first.infinite || (last.infinite && upward == (last.units > 0)) then
        writeForever fun chunk =>
          (List.range' (chunk * seqChunk) seqChunk).flatMap fun k => (if k = 0 then [] else separator) ++ text k
      else if last.infinite || (if upward then goal < start else start < goal) then return 0
      else do
        let count := ((goal - start).tdiv step').toNat + 1
        writeNumbers separator text count (count / seqChunk + 1) 0
        write 1 ['\n']
        return 0

inductive ExprValue where
  | int (n : Int)
  | text (cs : Octets)
  deriving DecidableEq, Repr

namespace ExprValue

def show' : ExprValue → Octets
  | .int n => Octets.ofInt n
  | .text cs => cs

def int? : ExprValue → Option Int
  | .int n => some n
  | .text ('+' :: _) => none
  | .text cs => Octets.int? cs

def isNull : ExprValue → Bool
  | .int n => n = 0
  | .text [] => true
  | .text cs =>
      let digits := match cs with
        | '-' :: ds => ds
        | ds => ds
      !digits.isEmpty && digits.all (· = '0')

def truth (b : Bool) : ExprValue := .int (if b then 1 else 0)

end ExprValue

inductive ExprFault where
  | missing (after : Octets)
  | unexpected (arg : Octets)
  | unexpectedClose
  | openAfter (arg : Octets)
  | openBefore (arg : Octets)
  | notInteger
  | zeroDivisor
  | regex (e : Regex.Fault)
  deriving DecidableEq, Repr

def ExprFault.text : ExprFault → Octets
  | .missing after => "syntax error: missing argument after ".toList ++ quotes after
  | .unexpected arg => "syntax error: unexpected argument ".toList ++ quotes arg
  | .unexpectedClose => "syntax error: unexpected ')'".toList
  | .openAfter arg => "syntax error: expecting ')' after ".toList ++ quotes arg
  | .openBefore arg => "syntax error: expecting ')' instead of ".toList ++ quotes arg
  | .notInteger => "non-integer argument".toList
  | .zeroDivisor => "division by zero".toList
  | .regex e => e.message.toList

namespace Expr

structure Args where
  last : Octets := []
  rest : List Octets

abbrev Read := StateT Args (Except ExprFault)

def accept (words : List String) : Read (Option String) := do
  let s ← get
  match s.rest with
  | [] => return none
  | arg :: rest =>
      match words.find? fun w => w.toList == arg with
      | some w => do
          set (⟨arg, rest⟩ : Args)
          return some w
      | none => return none

def next : Read Octets := do
  let s ← get
  match s.rest with
  | [] => throw (.missing s.last)
  | arg :: rest => do
      set (⟨arg, rest⟩ : Args)
      return arg

def colon (a b : ExprValue) : Read ExprValue := do
  match Regex.parse .basic b.show' with
  | .error e => throw (.regex e)
  | .ok r =>
      let text := a.show'.toArray
      let found := (r.laidOn text {}).matchAt 0
      match found with
      | some m => return if r.groupCount > 0 then .text (m.group text 1) else .int m.stop
      | none => return if r.groupCount > 0 then .text [] else .int 0

def compareValues (a b : ExprValue) : Ordering :=
  match a.int?, b.int? with
  | some x, some y => compare x y
  | _, _ => if a.show' == b.show' then .eq else if Octets.le a.show' b.show' then .lt else .gt

def relation (op : String) (o : Ordering) : Bool :=
  match op with
  | "<" => o == .lt
  | "<=" => o != .gt
  | "=" => o == .eq
  | "==" => o == .eq
  | "!=" => o != .eq
  | ">=" => o != .lt
  | _ => o == .gt

def arithmetic (op : String) (a b : ExprValue) : Read ExprValue := do
  match a.int?, b.int? with
  | some x, some y =>
      match op with
      | "+" => return .int (x + y)
      | "-" => return .int (x - y)
      | "*" => return .int (x * y)
      | _ =>
          if y = 0 then throw .zeroDivisor
          return .int (if op == "/" then x.tdiv y else x.tmod y)
  | _, _ => throw .notInteger

def operators : Nat → List String
  | 0 => ["|"]
  | 1 => ["&"]
  | 2 => ["<", "<=", "=", "==", "!=", ">=", ">"]
  | 3 => ["+", "-"]
  | 4 => ["*", "/", "%"]
  | _ => [":"]

mutual

/-- An expression of a level. What cannot change the value is read but not worked out. -/
def level (n : Nat) (k : Nat) (counts : Bool) : Read ExprValue :=
  match n with
  | 0 => throw .notInteger
  | n + 1 => do
      let first ← (if k < 5 then level n (k + 1) counts else operand n counts)
      further n k counts first

def further (n : Nat) (k : Nat) (counts : Bool) (a : ExprValue) : Read ExprValue :=
  match n with
  | 0 => throw .notInteger
  | n + 1 => do
      match ← accept (operators k) with
      | none => return a
      | some op => do
          let alive := counts && (if k = 0 then a.isNull else if k = 1 then !a.isNull else true)
          let b ← (if k < 5 then level n (k + 1) alive else operand n alive)
          let value ← (match k with
            | 0 => return if a.isNull then (if b.isNull then .int 0 else b) else a
            | 1 => return if a.isNull || b.isNull then .int 0 else a
            | 2 => return if counts then ExprValue.truth (relation op (compareValues a b)) else a
            | 5 => if counts then colon a b else return a
            | _ => if counts then arithmetic op a b else return a)
          further n k counts value

def operand (n : Nat) (counts : Bool) : Read ExprValue :=
  match n with
  | 0 => throw .notInteger
  | n + 1 => do
      match ← accept ["+", "length", "match", "index", "substr"] with
      | some "+" => return .text (← next)
      | some "length" => do
          let a ← operand n counts
          return .int a.show'.length
      | some "match" => do
          let a ← operand n counts
          let b ← operand n counts
          if counts then colon a b else return a
      | some "index" => do
          let a ← operand n counts
          let b ← operand n counts
          let found := a.show'.findIdx? b.show'.contains
          return .int (((found.map (· + 1)).getD 0 : Nat) : Int)
      | some _ => do
          let a ← operand n counts
          let i ← operand n counts
          let j ← operand n counts
          match i.int?, j.int? with
          | some i, some j =>
              return .text (if i ≤ 0 || j ≤ 0 then [] else (a.show'.drop (i.toNat - 1)).take j.toNat)
          | _, _ => return .text []
      | none => do
          match ← accept ["(", ")"] with
          | some "(" => do
              let v ← level n 0 counts
              match ← accept [")"] with
              | some _ => return v
              | none => do
                  let s ← get
                  match s.rest with
                  | [] => throw (.openAfter s.last)
                  | arg :: _ => throw (.openBefore arg)
          | some _ => throw .unexpectedClose
          | none => return .text (← next)

end

def eval (args : List Octets) : Except ExprFault ExprValue := do
  let (value, s) ← (level (12 * args.length + 20) 0 true).run { rest := args }
  match s.rest with
  | [] => return value
  | arg :: _ => throw (.unexpected arg)

end Expr

def expr (who : Octets) (args : List Octets) : Exec Nat := do
  let args := match args with
    | ['-', '-'] :: rest => rest
    | args => args
  match args with
  | [] => misuse who 2 "missing operand".toList
  | args =>
      if args == ["--help".toList] || args == ["--version".toList] then return 0
      else match Expr.eval args with
        | .ok v => do
            write 1 (v.show' ++ ['\n'])
            return if v.isNull then 1 else 0
        | .error e => do
            complain who e.text
            return 2

def factorsFrom : Nat → Nat → Nat → List Nat
  | 0, n, _ => if n > 1 then [n] else []
  | fuel + 1, n, d =>
      if n ≤ 1 then []
      else if n < d * d then [n]
      else if n % d = 0 then d :: factorsFrom fuel (n / d) d
      else factorsFrom fuel n (if d = 2 then 3 else d + 2)

def factorLine (who : Octets) (word : Octets) : Exec Bool := do
  let digits := match word with
    | '+' :: ds => ds
    | ds => ds
  match Octets.nat? digits with
  | some n => do
      write 1 (Octets.ofNat n ++ ':' :: (factorsFrom 2000000 n 2).flatMap (fun p => ' ' :: Octets.ofNat p) ++ ['\n'])
      return true
  | none => do
      complain who (quotes word ++ " is not a valid positive integer".toList)
      return false

def factor (who : Octets) (args : List Octets) : Exec Nat :=
  withOptions who 1 "h" [("exponents", "h")] args fun o => do
    let read : Exec (List Octets) := do
      if !o.operands.isEmpty then return o.operands
      match ← readAll 0 with
      | .ok text => return Octets.fields text
      | .error _ => return []
    let results ← (← read).mapM (factorLine who)
    return if results.all id then 0 else 1

end LintBridge.Shell.Program
