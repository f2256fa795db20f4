namespace LintBridge.Decimal

inductive Fault where
  | empty
  | invalidDigit
  | tooLarge
  deriving DecidableEq, Repr

def Fault.message : Fault → String
  | .empty => "cannot parse integer from empty string"
  | .invalidDigit => "invalid digit found in string"
  | .tooLarge => "number too large to fit in target type"

def digit? (c : Char) : Option Nat :=
  if '0' ≤ c ∧ c ≤ '9' then some (c.toNat - 48) else none

/-- Appends digits to the value read so far; the first offending character decides the fault, and
a character that is no digit counts before the size it would give. -/
def readDigits (max : Nat) : Nat → List Char → Except Fault Nat
  | n, [] => .ok n
  | n, c :: cs =>
      match digit? c with
      | none => .error .invalidDigit
      | some d => if max < 10 * n + d then .error .tooLarge else readDigits max (10 * n + d) cs

def read (max : Nat) : List Char → Except Fault Nat
  | [] => .error .empty
  | ['+'] => .error .invalidDigit
  | '+' :: cs => readDigits max 0 cs
  | cs => readDigits max 0 cs

def read? (max : Nat) (cs : List Char) : Option Nat := (read max cs).toOption

def value (ds : List Char) : Nat := ds.foldl (fun n d => 10 * n + (d.toNat - 48)) 0

end LintBridge.Decimal
