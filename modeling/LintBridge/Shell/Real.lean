import LintBridge.Double
import LintBridge.Shell.Octets

namespace LintBridge.Shell.Real

open Double

def withPoint (units places : Nat) : Octets :=
  let digits := Octets.padLeft (places + 1) '0' (Octets.ofNat units)
  let whole := digits.take (digits.length - places)
  if places = 0 then whole else whole ++ '.' :: digits.drop (digits.length - places)

def fixed (places : Nat) (x : Float) : Octets :=
  let (n, d) := quotient x
  withPoint (round (n * Nat.pow 10 places) d) places

def significant (digits : Nat) (x : Float) : Nat × Int :=
  let (n, d) := quotient x
  if n = 0 then (0, 0)
  else
    let e := magnitude n d
    let shift := (digits : Int) - 1 - e
    let units := if shift ≥ 0 then round (n * Nat.pow 10 shift.toNat) d else round n (d * Nat.pow 10 (-shift).toNat)
    if units ≥ Nat.pow 10 digits then (units / 10, e + 1) else (units, e)

def stripZeros (cs : Octets) : Octets :=
  if cs.contains '.' then
    let rest := (cs.reverse.dropWhile (· = '0'))
    (if rest.head? = some '.' then rest.tail else rest).reverse
  else cs

def exponentText (e : Int) : Octets :=
  'e' :: (if e < 0 then '-' else '+') :: Octets.padLeft 2 '0' (Octets.ofNat e.natAbs)

def scientific (places : Nat) (x : Float) : Octets :=
  let (units, e) := significant (places + 1) x
  withPoint units places ++ exponentText e

/-- At most so many significant digits, without needless zeros; an exponent where the number is very large or
small. -/
def general (digits : Nat) (x : Float) : Octets :=
  let digits := max digits 1
  let (units, e) := significant digits x
  if e < -4 || e ≥ digits then stripZeros (withPoint units (digits - 1)) ++ exponentText e
  else stripZeros (fixed ((digits : Int) - 1 - e).toNat x)

def generalFull (digits : Nat) (x : Float) : Octets :=
  let (units, e) := significant digits x
  if e < -4 || e ≥ digits then withPoint units (digits - 1) ++ exponentText e
  else
    let text := fixed ((digits : Int) - 1 - e).toNat x
    if text.contains '.' then text else text ++ ['.']

def hexadecimal (places : Option Nat) (x : Float) : Octets :=
  let (m, e) := parts x
  let normal := m ≥ Nat.pow 2 52
  let exponent : Int := if m = 0 then 0 else if normal then e + 52 else -1022
  let full := Nat.pow 2 52
  let rounded := match places with
    | some p => if p < 13 then round m (Nat.pow 16 (13 - p)) * Nat.pow 16 (13 - p) else m
    | none => m
  let digits := Octets.padLeft 13 '0' (Nat.toDigits 16 (rounded % full))
  let digits := match places with
    | some p => Octets.padRight p '0' (digits.take p)
    | none => (digits.reverse.dropWhile (· = '0')).reverse
  ['0', 'x'] ++ Octets.ofNat (rounded / full) ++ (if digits.isEmpty then [] else '.' :: digits) ++
    'p' :: (if exponent < 0 then '-' else '+') :: Octets.ofNat exponent.natAbs

def signed (x : Float) (digits : Octets) : Octets := if isNegative x then '-' :: digits else digits

def text (x : Float) : Octets :=
  if x.isNaN then "nan".toList
  else if x.isInf then signed x "inf".toList
  else if x.floor == x && x.abs < 1e16 then
    let (n, d) := quotient x
    let digits := Octets.ofNat (n / d)
    if n = 0 then digits else signed x digits
  else signed x (general 6 x)

def readExponent (lower upper : Char) : Octets → Int × Nat
  | c :: es =>
      if c = lower || c = upper then
        let (negative, sign) := match es with
          | '-' :: _ => (true, 1)
          | '+' :: _ => (false, 1)
          | _ => (false, 0)
        let ds := (es.drop sign).takeWhile Char.isDigit
        if ds.isEmpty then (0, 0)
        else
          let n : Int := min (Octets.digitsValue ds) 100000
          (if negative then -n else n, 1 + sign + ds.length)
      else (0, 0)
  | [] => (0, 0)

def hexDigit? (c : Char) : Option Nat :=
  if c.isDigit then some (c.toNat - 48)
  else if 'a' ≤ c && c ≤ 'f' then some (c.toNat - 87)
  else if 'A' ≤ c && c ≤ 'F' then some (c.toNat - 55)
  else none

def ofBinary (m : Nat) (e : Int) : Float :=
  if e ≥ 0 then Float.ofScientific (m * Nat.pow 2 (min e.toNat 5000)) false 0
  else
    let k := min (-e).toNat 5000
    Float.ofScientific (m * Nat.pow 5 k) true k

def readHexadecimal (cs : Octets) : Option (Float × Nat) :=
  let isDigit := fun (c : Char) => (hexDigit? c).isSome
  let whole := cs.takeWhile isDigit
  let fraction := match cs.drop whole.length with
    | '.' :: fs => some (fs.takeWhile isDigit)
    | _ => none
  let places := fraction.getD []
  if whole.isEmpty && places.isEmpty then none
  else
    let used := whole.length + (fraction.map fun f => f.length + 1).getD 0
    let (exponent, more) := readExponent 'p' 'P' (cs.drop used)
    let m := (whole ++ places).foldl (fun n c => n * 16 + (hexDigit? c).getD 0) 0
    some (ofBinary m (exponent - 4 * places.length), used + more)

def readDecimal (cs : Octets) : Option (Float × Nat) :=
  let whole := cs.takeWhile Char.isDigit
  let fraction := match cs.drop whole.length with
    | '.' :: fs => some (fs.takeWhile Char.isDigit)
    | _ => none
  let places := fraction.getD []
  if whole.isEmpty && places.isEmpty then none
  else
    let used := whole.length + (fraction.map fun f => f.length + 1).getD 0
    let (exponent, more) := readExponent 'e' 'E' (cs.drop used)
    let mantissa := Octets.digitsValue (whole ++ places)
    let e := exponent - places.length
    some (Float.ofScientific mantissa (e < 0) e.natAbs, used + more)

def readWord (cs : Octets) : Option (Float × Nat) :=
  let lower := (cs.take 8).map Char.toLower
  if "infinity".toList.isPrefixOf lower then some (1.0 / 0.0, 8)
  else if "inf".toList.isPrefixOf lower then some (1.0 / 0.0, 3)
  else if "nan".toList.isPrefixOf lower then some (0.0 / 0.0, 3)
  else none

/-- The number at the front of a text after blanks, in all the forms that there are, and how many characters it
takes. -/
def readFront (cs : Octets) : Float × Nat :=
  let blanks := (cs.takeWhile fun c => c = ' ' || ('\t' ≤ c && c ≤ '\x0d')).length
  let (negative, sign) := match cs.drop blanks with
    | '-' :: _ => (true, 1)
    | '+' :: _ => (false, 1)
    | _ => (false, 0)
  let body := cs.drop (blanks + sign)
  let found := match body with
    | '0' :: x :: more =>
        if x = 'x' || x = 'X' then
          match readHexadecimal more with
          | some (v, used) => some (v, used + 2)
          | none => some (0, 1)
        else readDecimal body
    | body => (readDecimal body).or (readWord body)
  match found with
  | some (x, used) => (if negative then -x else x, blanks + sign + used)
  | none => (0, 0)

def isBlank (c : Char) : Bool := c = ' ' || c = '\t' || c = '\n'

def ofText (cs : Octets) : Float := (readFront (cs.dropWhile isBlank)).1

def whole? (cs : Octets) : Option Float :=
  let cs := Octets.trimBlanks cs
  let (x, used) := readFront cs
  if used = cs.length && used ≠ 0 then some x else none

end LintBridge.Shell.Real
