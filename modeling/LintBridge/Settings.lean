import LintBridge.Config
import LintBridge.Json.Real
import LintBridge.Text.Quoted

namespace LintBridge

structure Settings where
  maxProblems : Nat := 1000
  /-- Whether an empty list of diagnostics is published too. -/
  alwaysPublish : Bool := false
  deriving DecidableEq, Repr, Inhabited

namespace Settings

def maxCount : Nat := 18446744073709551615

def count? : Json → Option Nat
  | .int (.ofNat n) => if n ≤ maxCount then some n else none
  | _ => none

inductive Fault where
  | notSettings (v : Json)
  | badCount (v : Json)
  | badFlag (v : Json)
  | tooLong (n : Nat)

def readCount : Option Json → Except Fault Nat
  | none => .ok ({} : Settings).maxProblems
  | some v => match count? v with
    | some n => .ok n
    | none => .error (.badCount v)

def readFlag : Option Json → Except Fault Bool
  | none => .ok ({} : Settings).alwaysPublish
  | some v => match v.bool? with
    | some b => .ok b
    | none => .error (.badFlag v)

def readParts (max always : Option Json) : Except Fault Settings :=
  match readCount max, readFlag always with
  | .error e, _ => .error e
  | .ok _, .error e => .error e
  | .ok m, .ok a => .ok ⟨m, a⟩

def readNamed (max always : Option Json) : Except Fault Settings :=
  match readFlag always, readCount max with
  | .error e, _ => .error e
  | .ok _, .error e => .error e
  | .ok a, .ok m => .ok ⟨m, a⟩

def maxKey : String := "maxNumberOfProblems"
def alwaysKey : String := "alwaysPublish"

/-- A section is an object, whose other fields do not count, or the two values in an array. -/
def read : Json → Except Fault Settings
  | .obj fields => readNamed (fields.lookup maxKey) (fields.lookup alwaysKey)
  | .arr [] => readParts none none
  | .arr [m] => readParts (some m) none
  | .arr [m, a] => readParts (some m) (some a)
  | .arr (m :: a :: rest) =>
      match readParts (some m) (some a) with
      | .error e => .error e
      | .ok _ => .error (.tooLong (rest.length + 2))
  | v => .error (.notSettings v)

/-- A section is read all or nothing: whatever is wrong with one part of it, the defaults stand for the whole. -/
def ofValue (v : Json) : Settings := ((read v).toOption).getD {}

/-- The settings of a configuration payload; one without the section resets them. -/
def ofChange (payload : Json) : Settings :=
  match payload.get? Config.settingsSection with
  | some v => ofValue v
  | none => {}

def tick (s : String) : String := "`" ++ s ++ "`"

def describe : Json → String
  | .null => "null"
  | .bool b => "boolean " ++ tick (toString b)
  | .int n => "integer " ++ tick (toString n)
  | .float t => "floating point " ++ tick (Json.Real.text (Json.Real.ofText t))
  | .str s => "string " ++ Quoted.quoteText s
  | .arr _ => "sequence"
  | .obj _ => "map"

def Fault.message : Fault → String
  | .notSettings v => "invalid type: " ++ describe v ++ ", expected struct Settings"
  | .badCount (.int n) => "invalid value: " ++ describe (.int n) ++ ", expected usize"
  | .badCount v => "invalid type: " ++ describe v ++ ", expected usize"
  | .badFlag v => "invalid type: " ++ describe v ++ ", expected a boolean"
  | .tooLong n => "invalid length " ++ toString n ++ ", expected fewer elements in array"

def complaint? (v : Json) : Option String :=
  if v.isNull then none
  else match read v with
    | .ok _ => none
    | .error e => some ("Invalid " ++ Config.settingsSection ++ " settings, using defaults: " ++ e.message)

end Settings

end LintBridge
