import LintBridge.Shell.Real

namespace LintBridge.Shell

structure Wide where
  num : Int
  den : Nat
  deriving Repr

namespace Wide

def bits (n : Nat) : Nat := if n = 0 then 0 else Nat.log2 n + 1

/-- The nearest number of 64 significant bits. -/
def ofQuotient (num : Int) (den : Nat) : Wide :=
  let n := num.natAbs
  if n = 0 || den = 0 then ⟨0, 1⟩
  else
    -- The quotient of the scaled numbers has 64 or 65 bits before it is rounded.
    let shift : Int := 64 + (bits den : Int) - bits n
    let scaled := fun (shift : Int) => if shift ≥ 0 then (n * Nat.pow 2 shift.toNat, den) else (n, den * Nat.pow 2 (-shift).toNat)
    let (a, b) := scaled shift
    let shift := if a / b ≥ Nat.pow 2 64 then shift - 1 else shift
    let (a, b) := scaled shift
    let m := Double.round a b
    let sign : Int := if num < 0 then -1 else 1
    if shift ≥ 0 then ⟨sign * m, Nat.pow 2 shift.toNat⟩ else ⟨sign * m * Nat.pow 2 (-shift).toNat, 1⟩

def ofInt (n : Int) : Wide := ofQuotient n 1

def add (x y : Wide) : Wide := ofQuotient (x.num * y.den + y.num * x.den) (x.den * y.den)

def neg (x : Wide) : Wide := ⟨-x.num, x.den⟩

def sub (x y : Wide) : Wide := x.add y.neg

def mul (x y : Wide) : Wide := ofQuotient (x.num * y.num) (x.den * y.den)

def div (x y : Wide) : Wide :=
  let sign : Int := if y.num < 0 then -1 else 1
  ofQuotient (sign * x.num * y.den) (x.den * y.num.natAbs)

def power (base : Wide) : Nat → Wide
  | 0 => ofInt 1
  | n + 1 => (base.power n).mul base

def abs (x : Wide) : Wide := ⟨x.num.natAbs, x.den⟩

def less (x y : Wide) : Bool := x.num * y.den < y.num * x.den

def floor (x : Wide) : Int := Int.fdiv x.num x.den
def ceiling (x : Wide) : Int := -Int.fdiv (-x.num) x.den
def truncate (x : Wide) : Int := Int.tdiv x.num x.den

def fixed (places : Nat) (x : Wide) : Octets :=
  (if x.num < 0 then ['-'] else []) ++ Real.withPoint (Double.round (x.num.natAbs * Nat.pow 10 places) x.den) places

def general (x : Wide) : Octets :=
  let n := x.num.natAbs
  let shown := if x.den = 1 then Float.ofScientific n false 0 else Float.ofScientific n false 0 / Float.ofScientific x.den false 0
  (if x.num < 0 then ['-'] else []) ++ Real.general 6 shown

end Wide

end LintBridge.Shell
