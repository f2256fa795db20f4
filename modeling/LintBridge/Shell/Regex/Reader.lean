import LintBridge.Shell.Regex

namespace LintBridge.Shell.Regex

inductive Token where
  | atom (r : Regex)
  | opens
  | opensPlain
  | opensLook (ahead wanted : Bool)
  | closes
  | bar
  | repeats (low : Nat) (high : Option Nat) (greedy : Bool)
  deriving DecidableEq, Repr

def wordRanges : List (Char × Char) := [('a', 'z'), ('A', 'Z'), ('0', '9'), ('_', '_')]

def spaceRanges : List (Char × Char) := [('\t', '\x0d'), (' ', ' ')]

def digitRanges : List (Char × Char) := [('0', '9')]

def control? (c : Char) : Option Char :=
  match c with
  | 'n' => some '\n'
  | 't' => some '\t'
  | 'r' => some '\x0d'
  | 'f' => some '\x0c'
  | 'v' => some '\x0b'
  | 'a' => some '\x07'
  | _ => none

def digitIn? (base : Nat) (c : Char) : Option Nat :=
  let d :=
    if c.isDigit then c.toNat - '0'.toNat
    else if 'a' ≤ c && c ≤ 'f' then c.toNat - 'a'.toNat + 10
    else if 'A' ≤ c && c ≤ 'F' then c.toNat - 'A'.toNat + 10
    else 16
  if d < base then some d else none

def numbered? (base most : Nat) (cs : Octets) : Option (Char × Octets) :=
  let ds := (cs.take most).takeWhile fun c => (digitIn? base c).isSome
  if ds.isEmpty then none
  else
    let n := ds.foldl (fun n c => n * base + (digitIn? base c).getD 0) 0
    some (Char.ofNat (n % 256), cs.drop ds.length)

def spelled? (e : Escapes) (cs : Octets) : Option (Char × Octets) :=
  match e, cs with
  | .classes, _ => none
  | _, [] => none
  | .controls, 'd' :: cs => numbered? 10 3 cs
  | .controls, 'o' :: cs => numbered? 8 3 cs
  | .controls, 'x' :: cs => numbered? 16 2 cs
  | .controls, 'c' :: c :: cs => some (Char.ofNat (Nat.xor c.toUpper.toNat 64), cs)
  | .strings, 'b' :: cs => some ('\x08', cs)
  | .many, 'x' :: cs => numbered? 16 2 cs
  | .many, 'e' :: cs => some ('\x1b', cs)
  | .many, 'v' :: _ => none
  | e, c :: cs =>
      match control? c with
      | some d => some (d, cs)
      | none => if e = .strings && '0' ≤ c && c ≤ '7' then numbered? 8 3 (c :: cs) else none

def escaped (e : Escapes) (c : Char) : Regex :=
  if e = .strings then single c
  else match c with
  | 'w' => .set ⟨false, wordRanges⟩
  | 'W' => .set ⟨true, wordRanges⟩
  | 's' => .set ⟨false, spaceRanges⟩
  | 'S' => .set ⟨true, spaceRanges⟩
  | 'b' => .wordEdge true
  | 'B' => .wordEdge false
  | c =>
      if '1' ≤ c && c ≤ '9' then .back (c.toNat - '0'.toNat)
      else if e = .many then
        match c with
        | 'd' => .set ⟨false, digitRanges⟩
        | 'D' => .set ⟨true, digitRanges⟩
        | 'h' => .set ⟨false, [(' ', ' '), ('\t', '\t')]⟩
        | 'H' => .set ⟨true, [(' ', ' '), ('\t', '\t')]⟩
        | 'N' => .set ⟨true, [('\n', '\n')]⟩
        | 'R' => single '\n'
        | 'v' => .set ⟨false, [('\n', '\x0d')]⟩
        | 'A' => .textStart
        | 'z' => .textEnd
        | 'Z' => .textEnd
        | 'K' => .cut
        | c => single c
      else match c with
        | '<' => .wordStart
        | '>' => .wordEnd
        | '\x60' => .textStart
        | '\x27' => .textEnd
        | c => single c

inductive Member where
  | kind (ranges : List (Char × Char))
  | char (c : Char)

def bracketName? (sign : Char) (cs : Octets) : Option (Octets × Octets) :=
  let name := cs.takeWhile fun c => c ≠ sign
  match cs.drop name.length with
  | _ :: ']' :: rest => some (name, rest)
  | _ => none

def member (e : Escapes) : Octets → Except Fault (Member × Octets)
  | [] => .error .openBracket
  | '[' :: ':' :: cs =>
      match bracketName? ':' cs with
      | none => .error .openBracket
      | some (name, rest) =>
          match CharSet.named name with
          | [] => .error .className
          | ranges => .ok (.kind ranges, rest)
  | '[' :: sign :: cs =>
      if sign = '.' || sign = '=' then
        match bracketName? sign cs with
        | none => .error .openBracket
        | some ([c], rest) => .ok (.char c, rest)
        | some _ => .error .collation
      else .ok (.char '[', sign :: cs)
  | '\\' :: cs =>
      match e, spelled? e cs, cs with
      | _, some (c, rest), _ => .ok (.char c, rest)
      | .strings, none, c :: rest => .ok (.char c, rest)
      | .many, none, c :: rest =>
          match escaped .many c with
          | .set s => if s.negated then .ok (.char c, rest) else .ok (.kind s.ranges, rest)
          | _ => .ok (.char c, rest)
      | _, _, _ => .ok (.char '\\', cs)
  | c :: cs => .ok (.char c, cs)

def readBracket (e : Escapes) : Nat → Bool → List (Char × Char) → Octets → Except Fault (List (Char × Char) × Octets)
  | 0, _, _, _ => .error .openBracket
  | _, _, _, [] => .error .openBracket
  | n + 1, first, ranges, c :: cs =>
      if c = ']' && !first then .ok (ranges, cs)
      else do
        match ← member e (c :: cs) with
        | (.kind more, rest) => readBracket e n false (more ++ ranges) rest
        | (.char low, '-' :: d :: rest) =>
            if d = ']' then readBracket e n false ((low, low) :: ranges) ('-' :: d :: rest)
            else match ← member e (d :: rest) with
              | (.kind _, _) => .error .range
              | (.char high, rest) =>
                  if high < low then .error .range else readBracket e n false ((low, high) :: ranges) rest
        | (.char c, rest) => readBracket e n false ((c, c) :: ranges) rest

def bracket (e : Escapes) (cs : Octets) : Except Fault (CharSet × Octets) := do
  let (negated, body) := match cs with
    | '^' :: cs => (true, cs)
    | cs => (false, cs)
  if cs.isEmpty then throw .lastBracket
  let (ranges, rest) ← readBracket e (body.length + 1) true [] body
  let inside := body.take (body.length - rest.length - 1)
  if e ≠ .strings && !negated && inside.length > 2 && inside.head? = some ':' && inside.getLast? = some ':' then
    .error .looseClass
  else return (⟨negated, ranges⟩, rest)

def mostRepeats : Nat := 32767

def bounds (closing : Octets) (cs : Octets) : Except Fault (Nat × Option Nat × Octets) :=
  let low := cs.takeWhile Char.isDigit
  let after := cs.drop low.length
  let (high, left) : Option Nat × Octets := match after with
    | ',' :: after =>
        let high := after.takeWhile Char.isDigit
        (Octets.nat? high, after.drop high.length)
    | after => (Octets.nat? low, after)
  let least := (Octets.nat? low).getD 0
  let empty := low.isEmpty && after.head? ≠ some ','
  if !closing.isPrefixOf left then
    if left.length < closing.length || left.all fun c => c.isDigit || c = ',' then .error .openBounds else .error .badBounds
  else if empty then .error .badBounds
  else if high.any (· < least) then .error .badBounds
  else if mostRepeats < least || high.any (mostRepeats < ·) then .error .tooBig
  else .ok (least, high, left.drop closing.length)

def begins : Option Token → Bool
  | none => true
  | some .opens => true
  | some .opensPlain => true
  | some (.opensLook _ _) => true
  | some .bar => true
  | some (.atom .lineStart) => true
  | _ => false

def endsBranch : Octets → Bool
  | [] => true
  | '\\' :: ')' :: _ => true
  | '\\' :: '|' :: _ => true
  | _ => false

def greedyIn (s : Style) (left : Octets) : Bool × Octets :=
  if s.escapes = .many then
    match left with
    | '?' :: left => (false, left)
    | '+' :: left => (true, left)
    | left => (true, left)
  else (true, left)

def opening (s : Style) (left : Octets) : Token × Octets :=
  if s.escapes = .many then
    match left with
    | '?' :: ':' :: left => (.opensPlain, left)
    | '?' :: '=' :: left => (.opensLook true true, left)
    | '?' :: '!' :: left => (.opensLook true false, left)
    | '?' :: '<' :: '=' :: left => (.opensLook false true, left)
    | '?' :: '<' :: '!' :: left => (.opensLook false false, left)
    | '?' :: '<' :: left => (.opens, (left.dropWhile (· ≠ '>')).drop 1)
    | '?' :: 'P' :: '<' :: left => (.opens, (left.dropWhile (· ≠ '>')).drop 1)
    | left => (.opens, left)
  else (.opens, left)

/-- The token that an operator is, and what follows it; none where it is to be passed over. -/
def operator (s : Style) (last : Option Token) (c : Char) (left : Octets) : Except Fault (Option Token × Octets) :=
  let sign := fun (low : Nat) (high : Option Nat) =>
    if begins last then
      match s.idle with
      | .literal => .ok (some (.atom (single c)), left)
      | .ignored => .ok (none, left)
      | .refused => .error .nothingRepeated
    else
      let (greedy, left) := greedyIn s left
      .ok (some (.repeats low high greedy), left)
  match c with
  | '(' =>
      let (token, left) := opening s left
      .ok (some token, left)
  | ')' => .ok (some .closes, left)
  | '|' => .ok (some .bar, left)
  | '*' => sign 0 none
  | '+' => sign 1 none
  | '?' => sign 0 (some 1)
  | _ =>
      let plain : Except Fault (Option Token × Octets) := .ok (some (.atom (single c)), left)
      if s.bounds = .absent || (begins last && s.idleBounds = .literal) then plain
      else if begins last && s.idleBounds = .refused then .error .nothingRepeated
      else match bounds (if s.extended then ['\x7d'] else ['\\', '\x7d']) left with
        | .ok (low, high, left) =>
            if begins last then .ok (none, left)
            else
              let (greedy, left) := greedyIn s left
              .ok (some (.repeats low high greedy), left)
        | .error e => if s.bounds = .lenient && !(e = .tooBig) && !(e = .badBounds && left.any (· = '\x7d') &&
              (left.takeWhile (· ≠ '\x7d')).all fun c => c.isDigit || c = ',') then plain else .error e

def isOperator (c : Char) : Bool := c = '(' || c = ')' || c = '|' || c = '+' || c = '?' || c = '\x7b'

def token (s : Style) (last : Option Token) : Octets → Except Fault (Option Token × Octets)
  | [] => .ok (none, [])
  | '\\' :: [] => .error .lastBackslash
  | '\\' :: d :: left =>
      if !s.extended && isOperator d then operator s last d left
      else match spelled? s.escapes (d :: left) with
        | some (c, left) => .ok (some (.atom (single c)), left)
        | none => .ok (some (.atom (escaped s.escapes d)), left)
  | '.' :: cs => .ok (some (.atom anyChar), cs)
  | '[' :: cs => do
      let (members, left) ← bracket s.escapes cs
      return (some (.atom (.set members)), left)
  | '*' :: cs => operator s last '*' cs
  | '^' :: cs => .ok (some (.atom (if s.extended || begins last then .lineStart else single '^')), cs)
  | '$' :: cs => .ok (some (.atom (if s.extended || endsBranch cs then .lineEnd else single '$')), cs)
  | c :: cs => if s.extended && isOperator c then operator s last c cs else .ok (some (.atom (single c)), cs)

def tokens (s : Style) : Nat → Option Token → Octets → Except Fault (List Token)
  | 0, _, _ => .ok []
  | _, _, [] => .ok []
  | n + 1, last, cs => do
      match ← token s last cs with
      | (some t, left) => return t :: (← tokens s n (some t) left)
      | (none, left) => tokens s n last left

structure Reading where
  rest : List Token
  opened : Nat := 0
  closed : List Nat := []

def readRepeats (r : Regex) : List Token → Regex × List Token
  | .repeats low high greedy :: ts => readRepeats (.rep low high greedy r) ts
  | ts => (r, ts)

mutual

def readAlt (loose : Bool) (depth : Nat) : Nat → Reading → Except Fault (Regex × Reading)
  | 0, s => .ok (.empty, s)
  | n + 1, s => do
      let (a, s) ← readSeq loose depth n .empty s
      match s.rest with
      | .bar :: ts => do
          let (b, s) ← readAlt loose depth n { s with rest := ts }
          return (.alt a b, s)
      | _ => return (a, s)

def readSeq (loose : Bool) (depth : Nat) : Nat → Regex → Reading → Except Fault (Regex × Reading)
  | 0, before, s => .ok (before, s)
  | n + 1, before, s =>
      let further := fun (r : Regex) (s : Reading) =>
        let (r, ts) := readRepeats r s.rest
        readSeq loose depth n (.seq before r) { s with rest := ts }
      match s.rest with
      | [] => .ok (before, s)
      | .bar :: _ => .ok (before, s)
      | .closes :: ts =>
          if depth > 0 then .ok (before, s)
          else if loose then further (single ')') { s with rest := ts }
          else .error .closedGroup
      | .repeats _ _ _ :: _ => .error .nothingRepeated
      | .atom (.back k) :: ts => if s.closed.contains k then further (.back k) { s with rest := ts } else .error .noSuchGroup
      | .atom r :: ts => further r { s with rest := ts }
      | .opens :: ts => do
          let k := s.opened + 1
          let (a, s) ← readAlt loose (depth + 1) n { s with rest := ts, opened := k }
          match s.rest with
          | .closes :: ts => further (.group k a) { s with rest := ts, closed := k :: s.closed }
          | _ => .error .openGroup
      | .opensPlain :: ts => do
          let (a, s) ← readAlt loose (depth + 1) n { s with rest := ts }
          match s.rest with
          | .closes :: ts => further a { s with rest := ts }
          | _ => .error .openGroup
      | .opensLook forward wanted :: ts => do
          let (a, s) ← readAlt loose (depth + 1) n { s with rest := ts }
          match s.rest with
          | .closes :: ts => further (if forward then .ahead wanted a else .behind wanted a) { s with rest := ts }
          | _ => .error .openGroup

end

/-- Whether a branch without anything in it stands among the tokens within so many groups, after a token that begins one
or not. -/
def hasEmptyBranch : Nat → Bool → List Token → Bool
  | _, begun, [] => begun
  | depth, begun, .bar :: ts => begun || hasEmptyBranch depth true ts
  | depth + 1, begun, .closes :: ts => begun || hasEmptyBranch depth false ts
  | depth, _, .opens :: ts => hasEmptyBranch (depth + 1) true ts
  | depth, _, _ :: ts => hasEmptyBranch depth false ts

def parse (s : Style) (cs : Octets) : Except Fault Regex := do
  let ts ← tokens s (cs.length + 1) none cs
  let (r, _) ← readAlt s.looseClose 0 (2 * ts.length + 2) { rest := ts }
  if !s.emptyBranches && !ts.isEmpty && hasEmptyBranch 0 true ts then throw .nothingRepeated
  return r

end LintBridge.Shell.Regex
