import LintBridge.Shell.Octets

namespace LintBridge.Shell

inductive ArithUnary where
  | neg
  | plus
  | not
  | complement
  deriving DecidableEq, Repr

inductive ArithBinary where
  | mul | div | mod | add | sub | shl | shr
  | lt | le | gt | ge | eq | ne
  | bitAnd | bitXor | bitOr | and | or
  deriving DecidableEq, Repr

inductive Arith where
  | num (n : Int)
  | var (name : Octets)
  | unary (op : ArithUnary) (a : Arith)
  | binary (op : ArithBinary) (a b : Arith)
  | cond (c a b : Arith)
  | assign (name : Octets) (op : Option ArithBinary) (a : Arith)
  deriving DecidableEq, Repr

namespace Arith

inductive Fault where
  | expectingPrimary
  | expectingClose
  | expectingColon
  | expectingEnd
  | divisionByZero
  | illegalNumber (text : Octets)
  | readOnly (name : Octets)
  /-- The one quotient that no word can hold stops the machine. -/
  | overflow
  deriving DecidableEq, Repr

def Fault.message (expression : Octets) : Fault → String
  | .illegalNumber text => "Illegal number: " ++ String.ofList text
  | .readOnly name => String.ofList name ++ ": is read only"
  | .expectingPrimary => about "expecting primary"
  | .expectingClose => about "expecting ')'"
  | .expectingColon => about "expecting ':'"
  | .expectingEnd => about "expecting EOF"
  | .divisionByZero => about "division by zero"
  | .overflow => about "overflow"
where
  about (what : String) : String :=
    "arithmetic expression: " ++ what ++ ": \"" ++ String.ofList expression ++ "\""

inductive Token where
  | num (n : Int)
  | name (cs : Octets)
  | op (op : ArithBinary)
  | assign (op : Option ArithBinary)
  | not
  | complement
  | opens
  | closes
  | question
  | colon
  | bad
  deriving DecidableEq, Repr

def digit? (c : Char) : Option Nat :=
  if '0' ≤ c && c ≤ '9' then some (c.toNat - 48)
  else if 'a' ≤ c && c ≤ 'z' then some (c.toNat - 87)
  else if 'A' ≤ c && c ≤ 'Z' then some (c.toNat - 55)
  else none

def digits (base : Nat) : Option Nat → Octets → Option Nat × Octets
  | n, [] => (n, [])
  | n, c :: cs =>
      match (digit? c).filter (· < base) with
      | some d => digits base (some (n.getD 0 * base + d)) cs
      | none => (n, c :: cs)

def largest : Int := 9223372036854775807

def smallest : Int := -9223372036854775808

def clamp (n : Int) : Int := if largest < n then largest else if n < smallest then smallest else n

def magnitude (cs : Octets) : Option Nat × Octets :=
  match cs with
  | '0' :: x :: ds =>
      if x = 'x' || x = 'X' then
        match digits 16 none ds with
        | (some n, rest) => (some n, rest)
        | (none, _) => (some 0, x :: ds)
      else digits 8 none cs
  | cs => digits 10 none cs

/-- A number at the front of a text after blanks, with a sign or none, and what follows it. The value may be
larger than a word. -/
def readNumber (cs : Octets) : Option Int × Octets :=
  let body := cs.dropWhile fun c => c = ' ' || ('\t' ≤ c && c ≤ '\x0d')
  match body with
  | '-' :: ds => let (n, rest) := magnitude ds; (n.map fun n => -(n : Int), rest)
  | '+' :: ds => let (n, rest) := magnitude ds; (n.map fun n => (n : Int), rest)
  | ds => let (n, rest) := magnitude ds; (n.map fun n => (n : Int), rest)

/-- The value of a variable as a number; nothing counts as zero. -/
def value? (cs : Octets) : Option Int :=
  if cs.all fun c => c = ' ' || ('\t' ≤ c && c ≤ '\x0d') then some 0
  else match readNumber cs with
    | (some n, rest) => if rest.all (fun c => c = ' ' || ('\t' ≤ c && c ≤ '\x0d')) then some (clamp n) else none
    | (none, _) => none

def readSign : Octets → Token × Octets
  | '<' :: '<' :: '=' :: cs => (.assign (some .shl), cs)
  | '>' :: '>' :: '=' :: cs => (.assign (some .shr), cs)
  | '<' :: '<' :: cs => (.op .shl, cs)
  | '>' :: '>' :: cs => (.op .shr, cs)
  | '<' :: '=' :: cs => (.op .le, cs)
  | '>' :: '=' :: cs => (.op .ge, cs)
  | '=' :: '=' :: cs => (.op .eq, cs)
  | '!' :: '=' :: cs => (.op .ne, cs)
  | '&' :: '&' :: cs => (.op .and, cs)
  | '|' :: '|' :: cs => (.op .or, cs)
  | '*' :: '=' :: cs => (.assign (some .mul), cs)
  | '/' :: '=' :: cs => (.assign (some .div), cs)
  | '%' :: '=' :: cs => (.assign (some .mod), cs)
  | '+' :: '=' :: cs => (.assign (some .add), cs)
  | '-' :: '=' :: cs => (.assign (some .sub), cs)
  | '&' :: '=' :: cs => (.assign (some .bitAnd), cs)
  | '^' :: '=' :: cs => (.assign (some .bitXor), cs)
  | '|' :: '=' :: cs => (.assign (some .bitOr), cs)
  | '=' :: cs => (.assign none, cs)
  | '<' :: cs => (.op .lt, cs)
  | '>' :: cs => (.op .gt, cs)
  | '&' :: cs => (.op .bitAnd, cs)
  | '|' :: cs => (.op .bitOr, cs)
  | '^' :: cs => (.op .bitXor, cs)
  | '*' :: cs => (.op .mul, cs)
  | '/' :: cs => (.op .div, cs)
  | '%' :: cs => (.op .mod, cs)
  | '+' :: cs => (.op .add, cs)
  | '-' :: cs => (.op .sub, cs)
  | '!' :: cs => (.not, cs)
  | '~' :: cs => (.complement, cs)
  | '(' :: cs => (.opens, cs)
  | ')' :: cs => (.closes, cs)
  | '?' :: cs => (.question, cs)
  | ':' :: cs => (.colon, cs)
  | _ :: cs => (.bad, cs)
  | [] => (.bad, [])

def tokens : Nat → Octets → List Token
  | 0, _ => []
  | _, [] => []
  | n + 1, c :: cs =>
      if c = ' ' || c = '\t' || c = '\n' then tokens n cs
      else if '0' ≤ c && c ≤ '9' then
        match magnitude (c :: cs) with
        | (some k, rest) => .num (clamp k) :: tokens n rest
        | (none, rest) => .bad :: tokens n rest
      else if Octets.isName1 c then
        let name := (c :: cs).takeWhile Octets.isName2
        .name name :: tokens n ((c :: cs).drop name.length)
      else
        let (t, rest) := readSign (c :: cs)
        t :: tokens n rest

def level : ArithBinary → Nat
  | .or => 1
  | .and => 2
  | .bitOr => 3
  | .bitXor => 4
  | .bitAnd => 5
  | .eq => 6
  | .ne => 6
  | .lt => 7
  | .le => 7
  | .gt => 7
  | .ge => 7
  | .shl => 8
  | .shr => 8
  | .add => 9
  | .sub => 9
  | .mul => 10
  | .div => 10
  | .mod => 10

mutual

def readExpr : Nat → List Token → Except Fault (Arith × List Token)
  | 0, _ => .error .expectingPrimary
  | n + 1, ts =>
      match ts with
      | .name name :: .assign op :: rest => do
          let (a, rest) ← readExpr n rest
          return (.assign name op a, rest)
      | ts => readCond n ts

def readCond : Nat → List Token → Except Fault (Arith × List Token)
  | 0, _ => .error .expectingPrimary
  | n + 1, ts => do
      let (c, rest) ← readBinary n 0 ts
      match rest with
      | .question :: rest =>
          let (a, rest) ← readExpr n rest
          match rest with
          | .colon :: rest =>
              let (b, rest) ← readCond n rest
              return (.cond c a b, rest)
          | _ => .error .expectingColon
      | rest => return (c, rest)

def readBinary : Nat → Nat → List Token → Except Fault (Arith × List Token)
  | 0, _, _ => .error .expectingPrimary
  | n + 1, bound, ts => do
      let (a, rest) ← readUnary n ts
      readChain n bound a rest

def readChain : Nat → Nat → Arith → List Token → Except Fault (Arith × List Token)
  | 0, _, _, _ => .error .expectingPrimary
  | n + 1, bound, a, ts =>
      match ts with
      | .op op :: rest =>
          if bound ≤ level op then do
            let (b, rest) ← readBinary n (level op + 1) rest
            readChain n bound (.binary op a b) rest
          else .ok (a, ts)
      | ts => .ok (a, ts)

def readUnary : Nat → List Token → Except Fault (Arith × List Token)
  | 0, _ => .error .expectingPrimary
  | n + 1, ts =>
      let prefixed := fun (op : ArithUnary) (rest : List Token) => do
        let (a, rest) ← readUnary n rest
        return (Arith.unary op a, rest)
      match ts with
      | .op .sub :: rest => prefixed .neg rest
      | .op .add :: rest => prefixed .plus rest
      | .not :: rest => prefixed .not rest
      | .complement :: rest => prefixed .complement rest
      | .opens :: rest => do
          let (a, rest) ← readExpr n rest
          match rest with
          | .closes :: rest => return (a, rest)
          | _ => .error .expectingClose
      | .num k :: rest => .ok (.num k, rest)
      | .name name :: rest => .ok (.var name, rest)
      | _ => .error .expectingPrimary

end

def parse (cs : Octets) : Except Fault Arith := do
  let ts := tokens (cs.length + 1) cs
  let (a, rest) ← readExpr (6 * ts.length + 8) ts
  if rest.isEmpty then return a else .error .expectingEnd

def wordSize : Nat := 18446744073709551616

def wrap (n : Int) : Int := Int.bmod n wordSize

def truth (b : Bool) : Int := if b then 1 else 0

def bits (n : Int) : Nat := (n % (wordSize : Int)).toNat

def applyUnary : ArithUnary → Int → Int
  | .neg, a => wrap (-a)
  | .plus, a => a
  | .not, a => truth (a = 0)
  | .complement, a => -a - 1

def applyBinary : ArithBinary → Int → Int → Except Fault Int
  | .mul, a, b => .ok (wrap (a * b))
  | .div, a, b =>
      if b = 0 then .error .divisionByZero
      else if a = smallest ∧ b = -1 then .error .overflow
      else .ok (Int.tdiv a b)
  | .mod, a, b =>
      if b = 0 then .error .divisionByZero
      else if a = smallest ∧ b = -1 then .error .overflow
      else .ok (Int.tmod a b)
  | .add, a, b => .ok (wrap (a + b))
  | .sub, a, b => .ok (wrap (a - b))
  | .shl, a, b => .ok (wrap (a * (Nat.pow 2 (bits b % 64) : Nat)))
  | .shr, a, b => .ok (Int.fdiv a (Nat.pow 2 (bits b % 64) : Nat))
  | .lt, a, b => .ok (truth (a < b))
  | .le, a, b => .ok (truth (a ≤ b))
  | .gt, a, b => .ok (truth (a > b))
  | .ge, a, b => .ok (truth (a ≥ b))
  | .eq, a, b => .ok (truth (a = b))
  | .ne, a, b => .ok (truth (a ≠ b))
  | .bitAnd, a, b => .ok (wrap (bits a &&& bits b : Nat))
  | .bitXor, a, b => .ok (wrap (bits a ^^^ bits b : Nat))
  | .bitOr, a, b => .ok (wrap (bits a ||| bits b : Nat))
  | .and, a, b => .ok (truth (a ≠ 0 && b ≠ 0))
  | .or, a, b => .ok (truth (a ≠ 0 || b ≠ 0))

abbrev Variables := List (Octets × Octets)

structure Scope where
  vars : Variables
  fixed : List Octets

def Scope.get (s : Scope) (name : Octets) : Except Fault Int :=
  let text := (s.vars.lookup name).getD []
  match value? text with
  | some n => .ok n
  | none => .error (.illegalNumber text)

def Scope.assign (s : Scope) (name : Octets) (n : Int) : Except Fault Scope :=
  if s.fixed.contains name then .error (.readOnly name)
  else .ok { s with vars := (name, Octets.ofInt n) :: s.vars.filter (·.1 ≠ name) }

def eval : Arith → Scope → Except Fault (Int × Scope)
  | .num n, s => .ok (n, s)
  | .var name, s => do return (← s.get name, s)
  | .unary op a, s => do
      let (n, s) ← eval a s
      return (applyUnary op n, s)
  | .binary .and a b, s => do
      let (m, s) ← eval a s
      if m = 0 then return (0, s)
      else
        let (n, s) ← eval b s
        return (truth (n ≠ 0), s)
  | .binary .or a b, s => do
      let (m, s) ← eval a s
      if m ≠ 0 then return (1, s)
      else
        let (n, s) ← eval b s
        return (truth (n ≠ 0), s)
  | .binary op a b, s => do
      let (m, s) ← eval a s
      let (n, s) ← eval b s
      return (← applyBinary op m n, s)
  | .cond c a b, s => do
      let (m, s) ← eval c s
      if m ≠ 0 then eval a s else eval b s
  | .assign name op a, s => do
      let (n, s) ← eval a s
      let value ← match op with
        | none => .ok n
        | some op => do applyBinary op (← s.get name) n
      return (value, ← s.assign name value)

end Arith

end LintBridge.Shell
