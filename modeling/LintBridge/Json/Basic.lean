namespace LintBridge

inductive Json where
  | null
  | bool (b : Bool)
  /-- A whole number between -2^63 and 2^64 - 1. -/
  | int (n : Int)
  /-- Any other number, as it was written. -/
  | float (text : String)
  | str (s : String)
  | arr (items : List Json)
  | obj (fields : List (String × Json))
  deriving Inhabited, Repr

namespace Json

def minInt : Int := -9223372036854775808

def maxInt : Int := 18446744073709551615

def ofNat (n : Nat) : Json := .int n

def isNull : Json → Bool
  | .null => true
  | _ => false

def get? (key : String) : Json → Option Json
  | .obj fields => fields.lookup key
  | _ => none

def int? : Json → Option Int
  | .int n => some n
  | _ => none

def nat? : Json → Option Nat
  | .int (.ofNat n) => some n
  | _ => none

def str? : Json → Option String
  | .str s => some s
  | _ => none

def bool? : Json → Option Bool
  | .bool b => some b
  | _ => none

def arr? : Json → Option (List Json)
  | .arr items => some items
  | _ => none

/-- Sets a field; an earlier value of the same key is replaced. -/
def setField (fields : List (String × Json)) (key : String) (value : Json) : List (String × Json) :=
  if fields.any (·.1 == key) then fields.map fun f => if f.1 == key then (key, value) else f
  else fields ++ [(key, value)]

end Json

end LintBridge
