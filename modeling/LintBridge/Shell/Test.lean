import LintBridge.Shell.Arith
import LintBridge.Shell.Machine

namespace LintBridge.Shell.Test

structure View where
  files : Files
  working : List Bytes

def View.found? (v : View) (path : Octets) : Option (List Bytes × Node) :=
  (v.files.find v.working (Octets.toBytes path)).toOption

def View.node? (v : View) (path : Octets) : Option Node := (v.found? path).map (·.2)

inductive Fault where
  | unexpected (text : Octets)
  | argumentExpected (text : Octets)
  | closingExpected
  | missingBracket
  | illegalNumber (text : Octets)
  deriving DecidableEq, Repr

def Fault.message : Fault → String
  | .unexpected [] => "unexpected operator"
  | .unexpected text => String.ofList text ++ ": unexpected operator"
  | .argumentExpected text => String.ofList text ++ ": argument expected"
  | .closingExpected => "closing paren expected"
  | .missingBracket => "missing ]"
  | .illegalNumber text => "Illegal number: " ++ String.ofList text

inductive Kind where
  | unary
  | binary
  | not
  | and
  | or
  | opens
  | closes
  deriving DecidableEq, Repr

def kind? (cs : Octets) : Option Kind :=
  match String.ofList cs with
  | "!" => some .not
  | "-a" => some .and
  | "-o" => some .or
  | "(" => some .opens
  | ")" => some .closes
  | "=" => some .binary
  | "!=" => some .binary
  | "<" => some .binary
  | ">" => some .binary
  | "-eq" => some .binary
  | "-ne" => some .binary
  | "-lt" => some .binary
  | "-le" => some .binary
  | "-gt" => some .binary
  | "-ge" => some .binary
  | "-nt" => some .binary
  | "-ot" => some .binary
  | "-ef" => some .binary
  | _ =>
      match cs with
      | ['-', c] => if "rwxefdcbpugkstznhOGLS".toList.contains c then some .unary else none
      | _ => none

inductive Token where
  | nothing
  | operand
  | op (kind : Kind) (text : Octets)
  deriving DecidableEq, Repr

def isOperand : List Octets → Bool
  | [] => true
  | [_] => true
  | [_, _] => false
  | _ :: next :: _ => kind? next == some .binary

def lex : List Octets → Token
  | [] => .nothing
  | cs :: more =>
      match kind? cs with
      | none => .operand
      | some kind =>
          if kind = .unary ∧ isOperand (cs :: more) then .operand
          else if kind = .opens ∧ more.isEmpty then .operand
          else .op kind cs

def number (cs : Octets) : Except Fault Int :=
  let isSpace := fun (c : Char) => c = ' ' || ('\t' ≤ c && c ≤ '\x0d')
  let body := cs.dropWhile isSpace
  let (sign, digits) : Int × Octets := match body with
    | '-' :: ds => (-1, ds)
    | '+' :: ds => (1, ds)
    | ds => (1, ds)
  let ds := digits.takeWhile Char.isDigit
  let n := sign * (Octets.digitsValue ds : Int)
  if ds.isEmpty || !(digits.drop ds.length).all isSpace || n ≠ Arith.clamp n then .error (.illegalNumber cs) else .ok n

def unary (v : View) (op arg : Octets) : Except Fault Bool :=
  let node := v.node? arg
  match op with
  | ['-', 'n'] => .ok !arg.isEmpty
  | ['-', 'z'] => .ok arg.isEmpty
  | ['-', 't'] => do
      let _ ← number arg
      return false
  | ['-', 'd'] => .ok (node == some .directory)
  | ['-', 'x'] => .ok (match node with
      | some .directory => true
      | some (.program _) => true
      | some (.file _ runs) => runs
      | _ => false)
  | ['-', 'c'] => .ok (match node with
      | some .void => true
      | some .zeros => true
      | some .full => true
      | _ => false)
  | ['-', 'f'] => .ok (match node with
      | some (.file _ _) => true
      | some (.program _) => true
      | _ => false)
  | ['-', 's'] => .ok (match node with
      | some (.file content _) => !content.isEmpty
      | some (.program _) => true
      | some .directory => true
      | _ => false)
  | ['-', c] =>
      if c = 'h' || c = 'L' then
        match v.files.findLink v.working (Octets.toBytes arg) with
        | .ok (_, .link _) => .ok true
        | _ => .ok false
      else .ok ("erwOG".toList.contains c && node.isSome)
  | _ => .ok false

def binary (v : View) (op a b : Octets) : Except Fault Bool := do
  let numbers := fun (f : Int → Int → Bool) => do return f (← number a) (← number b)
  match String.ofList op with
  | "=" => return a == b
  | "!=" => return a != b
  | "<" => return a != b && Octets.le a b
  | ">" => return !Octets.le a b
  | "-eq" => numbers (· == ·)
  | "-ne" => numbers (· != ·)
  | "-lt" => numbers (· < ·)
  | "-le" => numbers (· ≤ ·)
  | "-gt" => numbers (· > ·)
  | "-ge" => numbers (· ≥ ·)
  | "-ef" =>
      match v.found? a, v.found? b with
      | some (p, _), some (q, _) => return p == q
      | _, _ => return false
  | _ => return false

mutual

/-- A choice of conditions; each reader returns the arguments from the last one that it used on. -/
def readOr (v : View) : Nat → Token → List Octets → Except Fault (Bool × List Octets)
  | 0, _, spot => .ok (false, spot)
  | n + 1, token, spot => do
      let (a, spot) ← readAnd v n token spot
      match lex spot.tail with
      | .op .or _ =>
          let next := spot.drop 2
          let (b, spot) ← readOr v n (lex next) next
          return (a || b, spot)
      | _ => return (a, spot)

def readAnd (v : View) : Nat → Token → List Octets → Except Fault (Bool × List Octets)
  | 0, _, spot => .ok (false, spot)
  | n + 1, token, spot => do
      let (a, spot) ← readNot v n token spot
      match lex spot.tail with
      | .op .and _ =>
          let next := spot.drop 2
          let (b, spot) ← readAnd v n (lex next) next
          return (a && b, spot)
      | _ => return (a, spot)

def readNot (v : View) : Nat → Token → List Octets → Except Fault (Bool × List Octets)
  | 0, _, spot => .ok (false, spot)
  | n + 1, token, spot =>
      match token with
      | .op .not _ => do
          let next := lex spot.tail
          let (b, spot) ← readNot v n next (if next = .nothing then spot else spot.tail)
          return (!b, spot)
      | token => readPrimary v n token spot

def readPrimary (v : View) : Nat → Token → List Octets → Except Fault (Bool × List Octets)
  | 0, _, spot => .ok (false, spot)
  | n + 1, token, spot =>
      match token with
      | .nothing => .ok (false, spot)
      | .op .opens _ =>
          let next := spot.tail
          match lex next with
          | .op .closes _ => .ok (false, next)
          | first => do
              let (b, spot) ← readOr v n first next
              match lex spot.tail with
              | .op .closes _ => return (b, spot.tail)
              | _ => .error .closingExpected
      | .op .unary op =>
          match spot.tail with
          | [] => .error (.argumentExpected op)
          | arg :: more => do return (← unary v op arg, arg :: more)
      | _ =>
          match spot with
          | a :: more =>
              match lex more with
              | .op .binary op =>
                  match more.tail with
                  | [] => .error (.argumentExpected op)
                  | b :: rest => do return (← binary v op a b, b :: rest)
              | _ => .ok (!a.isEmpty, spot)
          | [] => .ok (false, [])

end

/-- What a test says. Of three arguments the middle one decides first, and of few arguments a negation or brackets
around them. -/
def holds (v : View) : List Octets → Except Fault Bool
  | [] => .ok false
  | args =>
      let settle := fun (token : Token) (args : List Octets) => do
        let (b, spot) ← readOr v (4 * args.length + 8) token args
        match spot with
        | a :: _ :: _ => .error (.unexpected a)
        | _ => return b
      let plainly := fun (args : List Octets) => settle (lex args) args
      let few := fun (args : List Octets) =>
        match args with
        | ['('] :: more => if more.getLast? == some [')'] then plainly more.dropLast else plainly args
        | args => plainly args
      let three := fun (args : List Octets) =>
        match args with
        | [_, op, _] => if kind? op = some .binary then settle .operand args else few args
        | args => few args
      match args with
      | ['!'] :: a :: b :: [] => if kind? a = some .binary then settle .operand args else do return !(← plainly [a, b])
      | ['!'] :: a :: b :: c :: [] => do return !(← three [a, b, c])
      | [_, _, _] => three args
      | [_, _, _, _] => few args
      | args => plainly args

end LintBridge.Shell.Test
