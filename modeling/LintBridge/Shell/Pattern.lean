import LintBridge.Shell.Octets

namespace LintBridge.Shell

structure CharSet where
  negated : Bool := false
  ranges : List (Char × Char) := []
  deriving DecidableEq, Repr

namespace CharSet

def contains (s : CharSet) (c : Char) : Bool :=
  s.ranges.any (fun r => r.1 ≤ c && c ≤ r.2) != s.negated

def named (name : Octets) : List (Char × Char) :=
  match String.ofList name with
  | "alpha" => [('a', 'z'), ('A', 'Z')]
  | "digit" => [('0', '9')]
  | "alnum" => [('a', 'z'), ('A', 'Z'), ('0', '9')]
  | "upper" => [('A', 'Z')]
  | "lower" => [('a', 'z')]
  | "space" => [('\t', '\x0d'), (' ', ' ')]
  | "blank" => [(' ', ' '), ('\t', '\t')]
  | "punct" => [('!', '/'), (':', '@'), ('[', '\x60'), ('\x7b', '~')]
  | "print" => [(' ', '~')]
  | "graph" => [('!', '~')]
  | "cntrl" => [('\x00', '\x1f'), ('\x7f', '\x7f')]
  | "xdigit" => [('0', '9'), ('a', 'f'), ('A', 'F')]
  | _ => []

/-- Reads the inside of brackets up to the one that closes them. Quoted characters never act as
signs. -/
def readRanges : Nat → Bool → List (Char × Bool) → Option (List (Char × Char) × List (Char × Bool))
  | 0, _, _ => none
  | _, _, [] => none
  | n + 1, first, (c, quoted) :: cs =>
      if c = ']' && !quoted && !first then some ([], cs)
      else if c = '[' && !quoted && (cs.head?.map (·.1)) == some ':' then
        let name := (cs.drop 1).takeWhile (·.1 ≠ ':')
        match (cs.drop 1).drop name.length with
        | (':', _) :: (']', _) :: rest => do
            let (more, rest) ← readRanges n false rest
            return (named (name.map (·.1)) ++ more, rest)
        | _ => do
            let (more, rest) ← readRanges n false cs
            return ((c, c) :: more, rest)
      else match cs with
        | ('-', false) :: (d, q) :: rest =>
            if d = ']' && !q then do
              let (more, rest) ← readRanges n false cs
              return ((c, c) :: more, rest)
            else do
              let (more, rest) ← readRanges n false rest
              return ((c, d) :: more, rest)
        | _ => do
            let (more, rest) ← readRanges n false cs
            return ((c, c) :: more, rest)

def read? (cs : List (Char × Bool)) : Option (CharSet × List (Char × Bool)) :=
  let negated := match cs with
    | ('!', false) :: _ => true
    | ('^', false) :: _ => true
    | _ => false
  let body := if negated then cs.drop 1 else cs
  (readRanges (body.length + 1) true body).map fun (ranges, rest) => (⟨negated, ranges⟩, rest)

end CharSet

inductive PatternItem where
  | anyText
  | anyChar
  | set (s : CharSet)
  | char (c : Char)
  deriving DecidableEq, Repr

abbrev Pattern := List PatternItem

namespace Pattern

/-- Reads a pattern; every character comes with whether it was quoted. -/
def readFuel : Nat → List (Char × Bool) → Pattern
  | 0, _ => []
  | _, [] => []
  | n + 1, (c, quoted) :: cs =>
      if quoted then .char c :: readFuel n cs
      else if c = '*' then .anyText :: readFuel n cs
      else if c = '?' then .anyChar :: readFuel n cs
      else if c = '\\' then
        match cs with
        | (d, _) :: cs => .char d :: readFuel n cs
        | [] => [.char c]
      else if c = '[' then
        match CharSet.read? cs with
        | some (s, rest) => .set s :: readFuel n rest
        | none => .char c :: readFuel n cs
      else .char c :: readFuel n cs

def read (cs : List (Char × Bool)) : Pattern := readFuel cs.length cs

def fits : PatternItem → Char → Bool
  | .anyText, _ => false
  | .anyChar, _ => true
  | .set s, c => s.contains c
  | .char d, c => c = d

/-- For every length, whether something accepted a text of that length or a shorter one. -/
def reach : Bool → List Bool → List Bool
  | _, [] => []
  | before, b :: bs => (before || b) :: reach (before || b) bs

def advance (cs : Octets) (row : List Bool) : PatternItem → List Bool
  | .anyText => reach false row
  | item => false :: List.zipWith (fun b c => b && fits item c) row cs

def beginnings (p : Pattern) (cs : Octets) : List Bool :=
  p.foldl (advance cs) (true :: cs.map fun _ => false)

def accepts (p : Pattern) (cs : Octets) : Bool := (beginnings p cs).getLast?.getD false

def isMagic (p : Pattern) : Bool := p.any fun
  | .char _ => false
  | _ => true

def lengths (p : Pattern) (cs : Octets) : List Nat :=
  ((beginnings p cs).zipIdx.filter (·.1)).map (·.2)

def trimStart (p : Pattern) (longest : Bool) (cs : Octets) : Octets :=
  match (if longest then (lengths p cs).getLast? else (lengths p cs).head?) with
  | some n => cs.drop n
  | none => cs

def trimEnd (p : Pattern) (longest : Bool) (cs : Octets) : Octets := (trimStart p.reverse longest cs.reverse).reverse

end Pattern

end LintBridge.Shell
