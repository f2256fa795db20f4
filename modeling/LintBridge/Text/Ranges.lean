namespace LintBridge.Text

/-- Counts the changes up to a code point; the table is increasing. -/
def changesUpTo (n : Nat) : List Nat → Nat
  | [] => 0
  | p :: ps => if p ≤ n then changesUpTo n ps + 1 else 0

def isWithin (changes : List Nat) (c : Char) : Bool := changesUpTo c.toNat changes % 2 == 1

end LintBridge.Text
