import LintBridge.Json.Basic

namespace LintBridge.Json.Reader

def skipBlanks : List Char → List Char :=
  List.dropWhile fun c => c == ' ' || c == '\t' || c == '\n' || c == '\r'

def hexDigit? (c : Char) : Option Nat :=
  if '0' ≤ c ∧ c ≤ '9' then some (c.toNat - 48)
  else if 'a' ≤ c ∧ c ≤ 'f' then some (c.toNat - 87)
  else if 'A' ≤ c ∧ c ≤ 'F' then some (c.toNat - 55)
  else none

def hexFour? : List Char → Option (Nat × List Char)
  | a :: b :: c :: d :: rest => do
      let a ← hexDigit? a
      let b ← hexDigit? b
      let c ← hexDigit? c
      let d ← hexDigit? d
      return (((a * 16 + b) * 16 + c) * 16 + d, rest)
  | _ => none

/-- The rest of an escape that names a UTF-16 unit; surrogates come in pairs. -/
def unicodeEscape? (cs : List Char) : Option (Char × List Char) := do
  let (unit, rest) ← hexFour? cs
  if 0xD800 ≤ unit && unit < 0xDC00 then
    match rest with
    | '\\' :: 'u' :: more =>
        let (low, rest) ← hexFour? more
        if 0xDC00 ≤ low && low < 0xE000 then
          return (Char.ofNat (0x10000 + (unit - 0xD800) * 0x400 + (low - 0xDC00)), rest)
        else none
    | _ => none
  else if 0xDC00 ≤ unit && unit < 0xE000 then none
  else return (Char.ofNat unit, rest)

def plainEscape? : Char → Option Char
  | '"' => some '"'
  | '\\' => some '\\'
  | '/' => some '/'
  | 'b' => some (Char.ofNat 8)
  | 'f' => some (Char.ofNat 12)
  | 'n' => some '\n'
  | 'r' => some '\r'
  | 't' => some '\t'
  | _ => none

def stringBody : Nat → List Char → List Char → Option (List Char × List Char)
  | 0, _, _ => none
  | fuel + 1, acc, cs =>
      match cs with
      | '"' :: rest => some (acc, rest)
      | '\\' :: 'u' :: rest =>
          match unicodeEscape? rest with
          | some (c, rest) => stringBody fuel (c :: acc) rest
          | none => none
      | '\\' :: e :: rest =>
          match plainEscape? e with
          | some c => stringBody fuel (c :: acc) rest
          | none => none
      | c :: rest => if c.toNat < 0x20 || c == '\\' then none else stringBody fuel (c :: acc) rest
      | [] => none

def string? (cs : List Char) : Option (String × List Char) :=
  (stringBody (cs.length + 1) [] cs).map fun (acc, rest) => (String.ofList acc.reverse, rest)

def isNumberChar (c : Char) : Bool :=
  c.isDigit || c == '-' || c == '+' || c == '.' || c == 'e' || c == 'E'

def natOfDigits (ds : List Char) : Nat := ds.foldl (fun n d => 10 * n + (d.toNat - 48)) 0

def numberKind? (cs : List Char) : Option Bool := do
  let body := match cs with
    | '-' :: rest => rest
    | _ => cs
  let whole := body.takeWhile Char.isDigit
  if whole.isEmpty || (whole.length > 1 && whole.head? == some '0') then none
  let rest := body.dropWhile Char.isDigit
  let (fraction, rest) ← match rest with
    | '.' :: more =>
        let ds := more.takeWhile Char.isDigit
        if ds.isEmpty then none else some (true, more.dropWhile Char.isDigit)
    | _ => some (false, rest)
  let power ← match rest with
    | [] => some false
    | e :: more =>
        if e == 'e' || e == 'E' then
          let ds := match more with
            | '+' :: ds => ds
            | '-' :: ds => ds
            | ds => ds
          if ds.isEmpty || !ds.all Char.isDigit then none else some true
        else none
  return !(fraction || power)

def number? (cs : List Char) : Option Json := do
  let whole ← numberKind? cs
  let n : Int := match cs with
    | '-' :: ds => -(natOfDigits ds : Int)
    | ds => natOfDigits ds
  if whole && minInt ≤ n && n ≤ maxInt && cs != ['-', '0'] then return .int n
  else return .float (String.ofList cs)

mutual

/-- The value at the front of a text, and what follows it. The fuel bounds the number of values that are read. -/
def value? : Nat → List Char → Option (Json × List Char)
  | 0, _ => none
  | fuel + 1, cs =>
      match skipBlanks cs with
      | 'n' :: 'u' :: 'l' :: 'l' :: rest => some (.null, rest)
      | 't' :: 'r' :: 'u' :: 'e' :: rest => some (.bool true, rest)
      | 'f' :: 'a' :: 'l' :: 's' :: 'e' :: rest => some (.bool false, rest)
      | '"' :: rest => (string? rest).map fun (s, rest) => (.str s, rest)
      | '[' :: rest =>
          match skipBlanks rest with
          | ']' :: rest => some (.arr [], rest)
          | rest => (items? fuel [] rest).map fun (vs, rest) => (.arr vs, rest)
      | '\x7b' :: rest =>
          match skipBlanks rest with
          | '\x7d' :: rest => some (.obj [], rest)
          | rest => (fields? fuel [] rest).map fun (fs, rest) => (.obj fs, rest)
      | cs => (number? (cs.takeWhile isNumberChar)).map fun v => (v, cs.dropWhile isNumberChar)

def items? : Nat → List Json → List Char → Option (List Json × List Char)
  | 0, _, _ => none
  | fuel + 1, acc, cs => do
      let (v, rest) ← value? fuel cs
      match skipBlanks rest with
      | ',' :: rest => items? fuel (v :: acc) rest
      | ']' :: rest => some ((v :: acc).reverse, rest)
      | _ => none

/-- The fields of an object up to its closing brace; of two fields with one key the later counts. -/
def fields? : Nat → List (String × Json) → List Char → Option (List (String × Json) × List Char)
  | 0, _, _ => none
  | fuel + 1, acc, cs => do
      match skipBlanks cs with
      | '"' :: rest =>
          let (key, rest) ← string? rest
          match skipBlanks rest with
          | ':' :: rest =>
              let (v, rest) ← value? fuel rest
              match skipBlanks rest with
              | ',' :: rest => fields? fuel (setField acc key v) rest
              | '\x7d' :: rest => some (setField acc key v, rest)
              | _ => none
          | _ => none
      | _ => none

end

end LintBridge.Json.Reader

namespace LintBridge.Json

def parse? (text : String) : Option Json :=
  let cs := text.toList
  match Reader.value? (2 * cs.length + 2) cs with
  | some (v, rest) => if (Reader.skipBlanks rest).isEmpty then some v else none
  | none => none

end LintBridge.Json
