import LintBridge.Shell.Awk

namespace LintBridge.Shell.Awk

inductive Use where
  | value (v : Variable)
  | array (v : Variable)
  | handed (function : String) (i : Nat) (v : Variable)
  deriving DecidableEq, Repr

def handedOver (name : String) : Nat → List Expr → List Use
  | _, [] => []
  | i, .var v :: es => .handed name i v :: handedOver name (i + 1) es
  | i, _ :: es => handedOver name (i + 1) es

mutual

def Expr.uses : Expr → List Use
  | .num _ => []
  | .str _ => []
  | .regex _ => []
  | .var v => [.value v]
  | .field e => e.uses
  | .item v index => .array v :: usesOf index
  | .assign target _ e => target.uses ++ e.uses
  | .bump target _ _ => target.uses
  | .cond c a b => c.uses ++ a.uses ++ b.uses
  | .both a b => a.uses ++ b.uses
  | .either a b => a.uses ++ b.uses
  | .member index v => .array v :: usesOf index
  | .hits e p _ => e.uses ++ p.uses
  | .compare _ a b => a.uses ++ b.uses
  | .concat a b => a.uses ++ b.uses
  | .arith _ a b => a.uses ++ b.uses
  | .sign _ e => e.uses
  | .call name args => handedOver name 0 args ++ usesWithin args
  | .builtIn .split (e :: .var v :: es) => e.uses ++ .array v :: usesOf es
  | .builtIn .length args => usesWithin args
  | .builtIn _ args => usesOf args
  | .getMain none => []
  | .getMain (some t) => t.uses
  | .getFile e none => e.uses
  | .getFile e (some t) => e.uses ++ t.uses
  | .getCommand e none => e.uses
  | .getCommand e (some t) => e.uses ++ t.uses

def usesOf : List Expr → List Use
  | [] => []
  | e :: es => e.uses ++ usesOf es

def usesWithin : List Expr → List Use
  | [] => []
  | .var _ :: es => usesWithin es
  | e :: es => e.uses ++ usesWithin es

end

def Sink.uses : Sink → List Use
  | .output => []
  | .file e => e.uses
  | .append e => e.uses
  | .pipe e => e.uses

def usesOf? : Option Expr → List Use
  | none => []
  | some e => e.uses

mutual

def Stmt.uses : Stmt → List Use
  | .expr e => e.uses
  | .print args sink => usesOf args ++ sink.uses
  | .printf args sink => usesOf args ++ sink.uses
  | .cond c a b => c.uses ++ usesIn a ++ usesIn b
  | .loop c body step _ => usesOf? c ++ usesIn body ++ usesIn step
  | .each name array body => .value name :: .array array :: usesIn body
  | .block body => usesIn body
  | .next => []
  | .nextFile => []
  | .exit e => usesOf? e
  | .breaks => []
  | .continues => []
  | .returns e => usesOf? e
  | .delete array index => .array array :: usesOf index
  | .deleteAll array => [.array array]

def usesIn : List Stmt → List Use
  | [] => []
  | s :: ss => s.uses ++ usesIn ss

end

def usedAsArrays (functions : List Definition) : List (String × Nat) :=
  functions.flatMap fun d => (usesIn d.body).filterMap fun
    | .array (.parameter i) => some (d.name, i)
    | _ => none

def withHanded (functions : List Definition) (known : List (String × Nat)) : List (String × Nat) :=
  (known ++ functions.flatMap fun d => (usesIn d.body).filterMap fun
    | .handed name i (.parameter j) => if known.contains (name, i) then some (d.name, j) else none
    | _ => none).eraseDups

/-- The parameters that are used as arrays, or handed to a function as a parameter that is one. -/
def arrayParameters (functions : List Definition) : List (String × Nat) :=
  (List.range functions.length).foldl (fun known _ => withHanded functions known) (usedAsArrays functions).eraseDups

def Pattern.uses : Pattern → List Use
  | .always => []
  | .begins => []
  | .finishes => []
  | .expr e => e.uses
  | .range _ a b => a.uses ++ b.uses

def Script.uses (s : Script) : List Use :=
  s.functions.flatMap (fun d => usesIn d.body) ++ s.rules.flatMap fun r => r.pattern.uses ++ usesIn r.body

/-- The first variable of the program, by its number, that is used in another way than before, and whether it is an
array. -/
def clash? : List (Nat × Bool) → List Use → Option (Nat × Bool)
  | _, [] => none
  | known, .value (.shared i) :: us =>
      match known.lookup i with
      | some true => some (i, true)
      | some false => clash? known us
      | none => clash? ((i, false) :: known) us
  | known, .array (.shared i) :: us =>
      match known.lookup i with
      | some false => some (i, false)
      | some true => clash? known us
      | none => clash? ((i, true) :: known) us
  | known, _ :: us => clash? known us

def Script.clash? (s : Script) : Option Octets :=
  (Awk.clash? [(argumentsIndex, true), (environmentIndex, true)] s.uses).map fun (i, array) =>
    "illegal reference to ".toList ++ (if array then "array " else "variable ").toList ++ (s.names.getD i "").toList

end LintBridge.Shell.Awk
