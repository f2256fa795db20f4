import LintBridge.Shell.Arith
import LintBridge.Shell.Real

namespace LintBridge.Shell.Format

def octal? (c : Char) : Option Nat :=
  if '0' ≤ c && c ≤ '7' then some (c.toNat - '0'.toNat) else none

def hex? (c : Char) : Option Nat := (Arith.digit? c).filter (· < 16)

def octal (most : Nat) (cs : Octets) : Char × Octets :=
  let ds := (cs.take most).takeWhile fun c => (octal? c).isSome
  (Char.ofNat ((ds.foldl (fun n c => n * 8 + (octal? c).getD 0) 0) % 256), cs.drop ds.length)

def hex (most : Nat) (cs : Octets) : Option (Nat × Octets) :=
  let ds := (cs.take most).takeWhile fun c => (hex? c).isSome
  if ds.isEmpty then none else some (ds.foldl (fun n c => n * 16 + (hex? c).getD 0) 0, cs.drop ds.length)

def simpleEscape? : Char → Option Char
  | 'a' => some '\x07'
  | 'b' => some '\x08'
  | 'e' => some '\x1b'
  | 'f' => some '\x0c'
  | 'n' => some '\n'
  | 'r' => some '\x0d'
  | 't' => some '\t'
  | 'v' => some '\x0b'
  | '\\' => some '\\'
  | _ => none

structure Dialect where
  hexadecimal : Bool
  formatEnds : Bool
  zeroFirst : Bool

def Dialect.shell : Dialect := ⟨false, false, false⟩

def Dialect.program : Dialect := ⟨true, true, false⟩

def namedCharacter (n : Nat) : Octets :=
  let digits := (Nat.toDigits 16 n).map Char.toUpper
  if n < 65536 then '\\' :: 'u' :: Octets.padLeft 4 '0' digits else '\\' :: 'U' :: Octets.padLeft 8 '0' digits

def formatEscape (d : Dialect) (cs : Octets) : Octets × Octets :=
  match cs with
  | [] => (['\\'], [])
  | c :: more =>
      if (octal? c).isSome then
        let (byte, left) := octal 3 cs
        ([byte], left)
      else match simpleEscape? c with
        | some e => ([e], more)
        | none =>
            if d.hexadecimal && (c = '"') then ([c], more)
            else if d.hexadecimal && c = 'x' then
              match hex 2 more with
              | some (n, left) => ([Char.ofNat n], left)
              | none => (['\\'], cs)
            else if d.hexadecimal && (c = 'u' || c = 'U') then
              match hex (if c = 'u' then 4 else 8) more with
              | some (n, left) => (if n < 128 then [Char.ofNat n] else namedCharacter n, left)
              | none => (['\\'], cs)
            else (['\\'], cs)

/-- Resolves the escapes of an argument; false if one of them ends the output. -/
def unescapeFuel (d : Dialect) : Nat → Octets → Octets × Bool
  | 0, _ => ([], true)
  | _, [] => ([], true)
  | n + 1, '\\' :: cs =>
      match cs with
      | 'c' :: _ => ([], false)
      | cs =>
          let cs := match cs with
            | '0' :: e :: more => if (octal? e).isSome then e :: more else cs
            | cs => cs
          let (out, left) := formatEscape d cs
          let (rest, goesOn) := unescapeFuel d n left
          (out ++ rest, goesOn)
  | n + 1, c :: cs =>
      let (out, goesOn) := unescapeFuel d n cs
      (c :: out, goesOn)

def unescape (d : Dialect) (cs : Octets) : Octets × Bool :=
  if cs.contains '\\' then unescapeFuel d (cs.length + 1) cs else (cs, true)

structure Spec where
  left : Bool := false
  zero : Bool := false
  plus : Bool := false
  blank : Bool := false
  alternate : Bool := false
  width : Nat := 0
  precision : Option Nat := none

def pad (s : Spec) (text : Octets) : Octets :=
  if s.left then Octets.padRight s.width ' ' text else Octets.padLeft s.width ' ' text

def padNumber (s : Spec) (mark digits : Octets) : Octets :=
  let digits := match s.precision with
    | some p => Octets.padLeft p '0' (if p = 0 && digits == ['0'] then [] else digits)
    | none => digits
  if s.zero && !s.left && s.precision.isNone then
    mark ++ Octets.padLeft (s.width - mark.length) '0' digits
  else pad s (mark ++ digits)

def inBase (base : Nat) (n : Nat) : Octets := Nat.toDigits base n

def signMark (s : Spec) (negative : Bool) : Octets :=
  if negative then ['-'] else if s.plus then ['+'] else if s.blank then [' '] else []

/-- A whole number; the letters for unsigned ones show its bits. -/
def integer (s : Spec) (letter : Char) (n : Int) : Octets :=
  let unsigned := Arith.bits n
  match letter with
  | 'o' =>
      let digits := inBase 8 unsigned
      padNumber s [] (if s.alternate && digits.head? != some '0' then '0' :: digits else digits)
  | 'u' => padNumber s [] (inBase 10 unsigned)
  | 'x' => padNumber s (if s.alternate && unsigned ≠ 0 then ['0', 'x'] else []) (inBase 16 unsigned)
  | 'X' => padNumber s (if s.alternate && unsigned ≠ 0 then ['0', 'X'] else [])
      ((inBase 16 unsigned).map Char.toUpper)
  | _ => padNumber s (signMark s (n < 0)) (inBase 10 n.natAbs)

def real (s : Spec) (letter : Char) (x : Float) : Octets :=
  let lower := letter.toLower
  let places := s.precision.getD 6
  let body :=
    if x.isNaN then "nan".toList
    else if x.isInf then "inf".toList
    else match lower with
      | 'f' => Real.fixed places x ++ (if s.alternate && places = 0 then ['.'] else [])
      | 'e' => Real.scientific places x
      | 'a' => Real.hexadecimal s.precision x
      | _ => if s.alternate then Real.generalFull (max places 1) x else Real.general (max places 1) x
  let body := if letter.isUpper then body.map Char.toUpper else body
  let mark := signMark s (Double.isNegative x && !x.isNaN)
  let s := if x.isNaN || x.isInf then { s with zero := false } else s
  padNumber { s with precision := none } mark body

inductive NumberFault where
  | none
  | expected
  | incomplete
  | range
  deriving DecidableEq, Repr

def number (signed : Bool) (cs : Octets) : Int × NumberFault :=
  match cs with
  | [] => (0, .none)
  | '\x27' :: c :: _ => (c.toNat, .none)
  | '"' :: c :: _ => (c.toNat, .none)
  | cs =>
      match Arith.readNumber cs with
      | (none, _) => (0, .expected)
      | (some n, rest) =>
          let (value, inRange) : Int × Bool :=
            if signed then (Arith.clamp n, Arith.clamp n = n)
            else if n.natAbs < Arith.wordSize then (n, true)
            else (-1, false)
          (value, if !rest.isEmpty then .incomplete else if inRange then .none else .range)

def realNumber (cs : Octets) : Float × NumberFault :=
  match cs with
  | [] => (0, .none)
  | '\x27' :: c :: _ => (c.toNat.toFloat, .none)
  | '"' :: c :: _ => (c.toNat.toFloat, .none)
  | cs =>
      let (x, used) := Real.readFront cs
      if used = 0 then (0, .expected) else (x, if used < cs.length then .incomplete else .none)

/-- A directive: its flags, width, precision and letter. A star takes the next argument. -/
structure Directive where
  flags : Octets := []
  width : Option (Option Nat) := none
  precision : Option (Option Nat) := none
  letter : Char
  text : Octets
  deriving DecidableEq, Repr

def isFlag (c : Char) : Bool := c = '-' || c = '+' || c = ' ' || c = '#' || c = '0'

/-- A width or precision; inside, nothing stands for a star. -/
def readCount (cs : Octets) : Option (Option Nat) × Octets :=
  match cs with
  | '*' :: cs => (some none, cs)
  | cs =>
      let ds := cs.takeWhile Char.isDigit
      ((Octets.nat? ds).map some, cs.drop ds.length)

/-- The directive after a percent sign; none if the text ends before its letter. -/
def readDirective (cs : Octets) : Option (Directive × Octets) :=
  let flags := cs.takeWhile isFlag
  let (width, rest) := readCount (cs.drop flags.length)
  let (precision, rest) := match rest with
    | '.' :: rest =>
        let (p, rest) := readCount rest
        (some (p.getD (some 0)), rest)
    | rest => (none, rest)
  match rest with
  | c :: rest => some (⟨flags, width, precision, c, '%' :: cs.take (cs.length - rest.length)⟩, rest)
  | [] => none

inductive Complaint where
  | missingLetter
  | invalid (directive : Octets)
  | number (arg : Octets) (fault : NumberFault)
  deriving DecidableEq, Repr

def Complaint.isFatal : Complaint → Bool
  | .number _ _ => false
  | _ => true

structure Result where
  out : List Octets := []
  left : List Octets := []
  complaints : List Complaint := []
  goesOn : Bool := true
  takes : Bool := false

def Result.before (out : Octets) (r : Result) : Result := { r with out := out :: r.out }

structure Filled where
  text : Octets
  left : List Octets
  complaints : List Complaint := []
  goesOn : Bool := true

def starNumber (args : List Octets) : Int := (number true (args.headD [])).1

def fill (d : Dialect) (directive : Directive) (args : List Octets) : Except Complaint Filled :=
  let (width, args) := match directive.width with
    | some none => (starNumber args, args.tail)
    | some (some k) => ((k : Int), args)
    | none => (0, args)
  let (precision, args) := match directive.precision with
    | some none =>
        let p := starNumber args
        (if p < 0 then none else some p.toNat, args.tail)
    | some (some k) => (some k, args)
    | none => (none, args)
  let spec : Spec := {
    left := directive.flags.contains '-' || width < 0, zero := directive.flags.contains '0',
    plus := directive.flags.contains '+', blank := directive.flags.contains ' ', alternate := directive.flags.contains '#',
    width := width.natAbs, precision := precision }
  let arg := args.headD []
  let cutTo := fun (text : Octets) => match precision with
    | some k => text.take k
    | none => text
  let complaints := fun (fault : NumberFault) => if fault = .none then [] else [Complaint.number arg fault]
  match directive.letter with
  | 's' => .ok ⟨pad spec (cutTo arg), args.tail, [], true⟩
  | 'c' => .ok ⟨pad spec (if arg.isEmpty then ['\x00'] else arg.take 1), args.tail, [], true⟩
  | 'b' =>
      let (text, goesOn) := unescape d arg
      .ok ⟨pad spec (cutTo text), args.tail, [], goesOn⟩
  | letter =>
      if letter = 'd' || letter = 'i' then
        let (k, fault) := number true arg
        .ok ⟨integer spec letter k, args.tail, complaints fault, true⟩
      else if letter = 'o' || letter = 'u' || letter = 'x' || letter = 'X' then
        let (k, fault) := number false arg
        .ok ⟨integer spec letter k, args.tail, complaints fault, true⟩
      else if "aAeEfFgG".toList.contains letter then
        let (x, fault) := realNumber arg
        .ok ⟨real spec letter x, args.tail, complaints fault, true⟩
      else .error (.invalid directive.text)

def pass (d : Dialect) : Nat → Octets → List Octets → Result
  | 0, _, args => { left := args }
  | _, [], args => { left := args }
  | n + 1, '\\' :: cs, args =>
      if d.formatEnds && cs.head? = some 'c' then { left := args, goesOn := false }
      else
        let (out, left) := formatEscape d cs
        (pass d n left args).before out
  | n + 1, '%' :: '%' :: cs, args => (pass d n cs args).before ['%']
  | n + 1, '%' :: cs, args =>
      match readDirective cs with
      | none => { left := args, complaints := [.missingLetter], goesOn := false }
      | some (directive, cs) =>
          match fill d directive args with
          | .error c => { left := args, complaints := [c], goesOn := false }
          | .ok f =>
              if f.goesOn then
                let r := pass d n cs f.left
                { r with out := f.text :: r.out, complaints := f.complaints ++ r.complaints, takes := true }
              else { out := [f.text], left := f.left, complaints := f.complaints, goesOn := false, takes := true }
  | n + 1, c :: cs, args =>
      let plain := cs.takeWhile fun c => c ≠ '\\' && c ≠ '%'
      (pass d n (cs.drop plain.length) args).before (c :: plain)

def repeatFuel (d : Dialect) (format : Octets) : Nat → List Octets → Result
  | 0, args => { left := args }
  | n + 1, args =>
      let r := pass d (format.length + 1) format args
      if r.goesOn && r.takes && !r.left.isEmpty then
        let more := repeatFuel d format n r.left
        { more with out := r.out ++ more.out, complaints := r.complaints ++ more.complaints }
      else r

def render (d : Dialect) (format : Octets) (args : List Octets) : Result := repeatFuel d format (args.length + 1) args

end LintBridge.Shell.Format
