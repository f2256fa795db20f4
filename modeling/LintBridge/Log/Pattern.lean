import LintBridge.Text.Blank

namespace LintBridge.Log.Pattern

structure Progress where
  depth : Nat := 0
  repeatable : Bool := false

def isHex (c : Char) : Bool := c.isDigit || ('a' ≤ c && c ≤ 'f') || ('A' ≤ c && c ≤ 'F')

def dropHex? (n : Nat) (cs : List Char) : Option (List Char) :=
  if (cs.take n).length == n && (cs.take n).all isHex then some (cs.drop n) else none

def categories : List Char := ['C', 'L', 'M', 'N', 'P', 'S', 'Z']

/-- Drops what a backslash begins. Marks may follow it, and letters that name something. -/
def dropEscape? : List Char → Option (List Char)
  | [] => none
  | 'x' :: cs => dropHex? 2 cs
  | 'u' :: cs => dropHex? 4 cs
  | 'U' :: cs => dropHex? 8 cs
  | 'p' :: c :: cs => if categories.contains c then some cs else none
  | 'P' :: c :: cs => if categories.contains c then some cs else none
  | c :: cs =>
      if "aftnrvdswDSWAz".toList.contains c then some cs
      else if c.toNat < 128 && !c.isAlphanum && c != '<' && c != '>' then some cs
      else none

/-- Drops the rest of a class of characters, in which others may stand. A bracket right after the opening one
is a member. -/
def dropClass? : Nat → Nat → List Char → Option (List Char)
  | 0, _, _ => none
  | _ + 1, _, [] => none
  | fuel + 1, depth, '\\' :: cs => (dropEscape? cs).bind (dropClass? fuel depth)
  | fuel + 1, depth, '[' :: '^' :: ']' :: cs => dropClass? fuel (depth + 1) cs
  | fuel + 1, depth, '[' :: ']' :: cs => dropClass? fuel (depth + 1) cs
  | fuel + 1, depth, '[' :: cs => dropClass? fuel (depth + 1) cs
  | fuel + 1, depth, ']' :: cs => if depth ≤ 1 then some cs else dropClass? fuel (depth - 1) cs
  | fuel + 1, depth, a :: '-' :: b :: cs =>
      if b = ']' ∨ b = '[' ∨ b = '\\' ∨ b = '-' then dropClass? fuel depth ('-' :: b :: cs)
      else if b < a then none else dropClass? fuel depth cs
  | fuel + 1, depth, _ :: cs => dropClass? fuel depth cs

def dropName? (cs : List Char) : Option (List Char) :=
  match cs.takeWhile (· ≠ '>'), cs.dropWhile (· ≠ '>') with
  | c :: name, '>' :: rest =>
      if (c.isAlpha || c == '_') && name.all (fun c => c.isAlphanum || c == '_' || c == '.' || c == '[' || c == ']') then
        some rest
      else none
  | _, _ => none

def areModes (cs : List Char) : Bool :=
  let letters := cs.filter (· ≠ '-')
  letters.all ("imsUuxR".toList.contains ·) && letters.eraseDups.length == letters.length &&
    (cs.filter (· = '-')).length ≤ 1 && cs.getLast?.all (· ≠ '-')

def dropOpening? : List Char → Option (Bool × List Char)
  | '?' :: 'P' :: '<' :: cs => (dropName? cs).map (true, ·)
  | '?' :: '<' :: cs => (dropName? cs).map (true, ·)
  | '?' :: cs =>
      let modes := cs.takeWhile fun c => c ≠ ':' && c ≠ ')'
      match cs.drop modes.length with
      | ':' :: rest => if areModes modes then some (true, rest) else none
      | ')' :: rest => if areModes modes && !modes.isEmpty then some (false, rest) else none
      | _ => none
  | cs => some (true, cs)

def readOn : Nat → Progress → List Char → Bool
  | 0, _, _ => false
  | _ + 1, p, [] => p.depth == 0
  | fuel + 1, p, c :: cs =>
      let after (rest : Option (List Char)) : Bool :=
        rest.any fun rest => readOn fuel { p with repeatable := true } rest
      match c with
      | '*' => p.repeatable && readOn fuel p cs
      | '+' => p.repeatable && readOn fuel p cs
      | '?' => p.repeatable && readOn fuel p cs
      | '\x7b' => false
      | '|' => readOn fuel { p with repeatable := false } cs
      | '(' => (dropOpening? cs).any fun (opened, rest) =>
          readOn fuel { depth := if opened then p.depth + 1 else p.depth, repeatable := false } rest
      | ')' => p.depth != 0 && readOn fuel { depth := p.depth - 1, repeatable := true } cs
      | '[' => after (dropClass? (cs.length + 2) 0 (c :: cs))
      | '\\' => after (dropEscape? cs)
      | _ => readOn fuel { p with repeatable := true } cs

def dropDigits (cs : List Char) : List Char := cs.dropWhile Char.isDigit

def isNumber (cs : List Char) : Bool :=
  let whole := cs.takeWhile Char.isDigit
  let rest := cs.drop whole.length
  let (part, rest) := match rest with
    | '.' :: cs => (cs.takeWhile Char.isDigit, dropDigits cs)
    | cs => ([], cs)
  let power : List Char → Bool
    | [] => false
    | c :: cs => if c = '+' ∨ c = '-' then !cs.isEmpty && cs.all Char.isDigit else (c :: cs).all Char.isDigit
  let named := ["inf", "infinity", "nan"].contains (String.ofList (cs.map Char.toLower))
  named || ((!whole.isEmpty || !part.isEmpty) &&
    (match rest with
      | [] => true
      | c :: cs => (c = 'e' || c = 'E') && power cs))

/-- Whether a text may stand as the test of a value. Such tests are made only within spans, where no line of the
server is, so that only their form counts. -/
def isFair (cs : List Char) : Bool :=
  match cs with
  | '+' :: number => isNumber number
  | cs => readOn (cs.length + 1) {} cs

end LintBridge.Log.Pattern
