namespace LintBridge.Double

def parts (x : Float) : Nat × Int :=
  let bits := x.toBits.toNat
  let exponent : Nat := bits / Nat.pow 2 52 % 2048
  let fraction : Nat := bits % Nat.pow 2 52
  if exponent = 0 then (fraction, -1074) else (fraction + Nat.pow 2 52, (exponent : Int) - 1075)

def scaled (base m : Nat) (e : Int) : Nat × Nat :=
  if e ≥ 0 then (m * Nat.pow base e.toNat, 1) else (m, Nat.pow base (-e).toNat)

def quotient (x : Float) : Nat × Nat :=
  let (m, e) := parts x
  scaled 2 m e

def isNegative (x : Float) : Bool := x.toBits.toNat / Nat.pow 2 63 = 1

/-- The whole number nearest to a quotient; a half goes to the even one. -/
def round (n d : Nat) : Nat :=
  let q := n / d
  let r := n % d
  if 2 * r < d then q else if d < 2 * r then q + 1 else if q % 2 = 0 then q else q + 1

def magnitude (n d : Nat) : Int :=
  let up := (List.range 400).find? fun k => n < d * Nat.pow 10 (k + 1)
  if d ≤ n then (up.getD 0 : Nat)
  else
    let down := (List.range 400).find? fun k => d ≤ n * Nat.pow 10 (k + 1)
    Int.negSucc (down.getD 0)

/-- Whether a decimal is closer to a number, given by its parts, than to any other. The number below is closer
where the power of two changes, and a decimal in the middle belongs to the even one. -/
def reads (m : Nat) (e : Int) (decimal : Nat × Nat) : Bool :=
  let below : Nat := if m = Nat.pow 2 52 ∧ e ≠ -1074 then 1 else 2
  let (low, lowDen) := scaled 2 (4 * m - below) (e - 2)
  let (high, highDen) := scaled 2 (4 * m + 2) (e - 2)
  let (n, d) := decimal
  if m % 2 = 0 then low * d ≤ n * lowDen && n * highDen ≤ high * d
  else low * d < n * lowDen && n * highDen < high * d

def digitsOf? (m : Nat) (e : Int) (first : Int) (count : Nat) : Option Nat :=
  let (n, d) := scaled 2 m e
  let grid : Int := first - ((count : Int) - 1)
  let (n, d) := if grid ≥ 0 then (n, d * Nat.pow 10 grid.toNat) else (n * Nat.pow 10 (-grid).toNat, d)
  let near := round n d
  let other := if near * d ≤ n then near + 1 else near - 1
  [near, other].find? fun k => reads m e (scaled 10 k grid)

/-- The fewest digits that read back, as a whole number without zeros at its end, and the power of ten of the
first digit. -/
def shortest (x : Float) : Nat × Int :=
  let (m, e) := parts x
  if m = 0 then (0, 0)
  else
    let (n, d) := scaled 2 m e
    let first := magnitude n d
    match (List.range 17).findSome? fun k => (digitsOf? m e first (k + 1)).map fun digits => (digits, k + 1) with
    | some (digits, count) => if digits = Nat.pow 10 count then (1, first + 1) else (digits, first)
    | none => (0, 0)

end LintBridge.Double
