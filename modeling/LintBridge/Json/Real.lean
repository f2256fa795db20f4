import LintBridge.Double
import LintBridge.Json.Basic

namespace LintBridge.Json.Real

structure Digits where
  value : Nat := 0
  dropped : Nat := 0
  places : Nat := 0
  full : Bool := false

def Digits.add (afterPoint : Bool) (a : Digits) (c : Char) : Digits :=
  let n := 10 * a.value + (c.toNat - 48)
  if a.full || 18446744073709551615 < n then { a with full := true, dropped := a.dropped + (if afterPoint then 0 else 1) }
  else { a with value := n, places := a.places + (if afterPoint then 1 else 0) }

def powerOfTen (n : Nat) : Float := Float.ofScientific 1 false n

/-- A number times a power of ten. The steps bound how often a large power is divided off. -/
def scale : Nat → Float → Int → Float
  | 0, x, _ => x
  | steps + 1, x, e =>
      if e ≥ 0 then x * powerOfTen e.toNat
      else if e ≥ -308 then x / powerOfTen (-e).toNat
      else scale steps (x / powerOfTen 308) (e + 308)

/-- The number that a text of the JSON grammar stands for. The digits are read into a whole number as long as it
stays below a bound, and then scaled by a power of ten, with one rounding in each step. -/
def ofText (text : String) : Float :=
  let cs := text.toList
  let (negative, body) := match cs with
    | '-' :: body => (true, body)
    | body => (false, body)
  let whole := body.takeWhile Char.isDigit
  let rest := body.drop whole.length
  let (fraction, rest) := match rest with
    | '.' :: more => (more.takeWhile Char.isDigit, more.dropWhile Char.isDigit)
    | rest => ([], rest)
  let value (ds : List Char) : Int := ds.foldl (fun n d => 10 * n + (d.toNat - 48)) 0
  let power : Int := match rest.drop 1 with
    | '-' :: ds => -value ds
    | '+' :: ds => value ds
    | ds => value ds
  let a := whole.foldl (Digits.add false) {}
  let a := fraction.foldl (Digits.add true) { a with full := false }
  let x := scale 8 a.value.toUInt64.toFloat (power + a.dropped - a.places)
  if negative then -x else x

def exponentText (e : Int) : List Char :=
  let digits := (toString e.natAbs).toList
  'e' :: (if e < 0 then '-' else '+') :: List.replicate (2 - digits.length) '0' ++ digits

def text (x : Float) : String :=
  let (digits, first) := Double.shortest x
  let ds := (toString digits).toList
  let zeros (n : Int) : List Char := List.replicate n.toNat '0'
  let body :=
    if first < -5 ∨ 16 ≤ first then
      ds.take 1 ++ (if ds.length = 1 then [] else '.' :: ds.drop 1) ++ exponentText first
    else if first < 0 then "0.".toList ++ zeros (-first - 1) ++ ds
    else
      let whole := ds.take (first.toNat + 1)
      let part := ds.drop (first.toNat + 1)
      whole ++ zeros (first + 1 - whole.length) ++ '.' :: (if part.isEmpty then ['0'] else part)
  String.ofList (if Double.isNegative x then '-' :: body else body)

end LintBridge.Json.Real

namespace LintBridge.Json

mutual

def normal : Json → Json
  | .float t => .float (Real.text (Real.ofText t))
  | .arr items => .arr (normalItems items)
  | .obj fields => .obj (normalFields fields)
  | v => v

def normalItems : List Json → List Json
  | [] => []
  | v :: vs => normal v :: normalItems vs

def normalFields : List (String × Json) → List (String × Json)
  | [] => []
  | (k, v) :: fs => (k, normal v) :: normalFields fs

end

end LintBridge.Json
