import LintBridge.Shell.Regex.Reader
import LintBridge.Shell.Sed

namespace LintBridge.Shell.Sed

/-- A fault, and how much of the script was left when it was found; a fault that shows at the end only has no place. -/
structure Problem where
  fault : Fault
  left : Option Nat
  deriving DecidableEq, Repr

def blame {α : Type} (fault : Fault) (left : Octets) : Except Problem α := .error ⟨fault, some left.length⟩

def isBlank (c : Char) : Bool := c = ' ' || c = '\t'

def skipBlanks (cs : Octets) : Octets := cs.dropWhile isBlank

def number (cs : Octets) : Nat × Octets :=
  let ds := cs.takeWhile Char.isDigit
  (Octets.digitsValue ds, cs.drop ds.length)

inductive Place where
  | outside
  | bracket (negation : Bool)
  | inside
  | named (sign : Char)
  | nameEnd

def Place.after (p : Place) (c : Char) (next : Option Char) : Place :=
  match p with
  | .outside => if c = '[' then .bracket true else .outside
  | .bracket negation =>
      if c = '^' && negation then .bracket false
      else if c = '[' && (next = some ':' || next = some '.' || next = some '=') then .named (next.getD ':')
      else .inside
  | .inside =>
      if c = ']' then .outside
      else if c = '[' && (next = some ':' || next = some '.' || next = some '=') then .named (next.getD ':')
      else .inside
  | .named sign => if c = sign && next = some ']' then .nameEnd else .named sign
  | .nameEnd => .inside

/-- The text up to a delimiter, and what follows it. A backslash takes the meaning from a delimiter; in the sets of an
expression there are no delimiters. -/
def delimited (d : Char) (expression : Bool) : Octets → Place → Octets → Option (Octets × Octets)
  | acc, .outside, '\\' :: c :: cs =>
      if d = '\\' then some (acc.reverse, c :: cs)
      else if c = '\n' then delimited d expression ('\n' :: acc) .outside cs
      else if c = d && (expression || c ≠ '&') then delimited d expression (c :: acc) .outside cs
      else delimited d expression (c :: '\\' :: acc) .outside cs
  | acc, place, c :: cs =>
      match place with
      | .outside =>
          if c = d then some (acc.reverse, cs)
          else if c = '\n' then none
          else delimited d expression (c :: acc) (if expression then place.after c cs.head? else .outside) cs
      | place => delimited d expression (c :: acc) (place.after c cs.head?) cs
  | _, _, [] => none

def unclosed (cs : Octets) : Octets := cs.dropWhile (· ≠ '\n')

def unescape : Nat → Octets → Octets
  | 0, cs => cs
  | _, [] => []
  | n + 1, '\\' :: c :: cs =>
      let spelled := if c = 'x' || c = 'o' || c = 'd' || c = 'c' then Regex.spelled? .controls (c :: cs) else none
      match spelled with
      | some ('\\', rest) => '\\' :: '\\' :: unescape n rest
      | some (e, rest) => e :: unescape n rest
      | none => '\\' :: c :: unescape n cs
  | n + 1, c :: cs => c :: unescape n cs

def style (extended : Bool) : Regex.Style := if extended then .extendedEditing else .editing

/-- The expression of a text; the empty one is the last that was used. -/
def pattern (extended : Bool) (text : Octets) (mode : Regex.Mode) (modified : Bool) (left : Octets) :
    Except Problem Pattern :=
  if text.isEmpty then if modified then blame .emptyModifiers left else .ok .last
  else match Regex.parse (style extended) (unescape text.length text) with
    | .ok r => .ok (.given r mode)
    | .error f => blame (.regex f) left

def pieces : Nat → Octets → List Piece
  | 0, _ => []
  | _, [] => []
  | n + 1, '&' :: cs => .group 0 :: pieces n cs
  | n + 1, '\\' :: c :: cs =>
      match c with
      | 'U' => .shift (some true) :: pieces n cs
      | 'L' => .shift (some false) :: pieces n cs
      | 'E' => .shift none :: pieces n cs
      | 'u' => .shiftOne true :: pieces n cs
      | 'l' => .shiftOne false :: pieces n cs
      | c =>
          if c.isDigit then .group (c.toNat - '0'.toNat) :: pieces n cs
          else match Regex.spelled? .controls (c :: cs) with
            | some (d, rest) => .char d :: pieces n rest
            | none => .char c :: pieces n cs
  | n + 1, c :: cs => .char c :: pieces n cs

def mapped : Nat → Octets → Octets
  | 0, _ => []
  | _, [] => []
  | n + 1, '\\' :: c :: cs =>
      match Regex.spelled? .controls (c :: cs) with
      | some (d, rest) => d :: mapped n rest
      | none => c :: mapped n cs
  | n + 1, c :: cs => c :: mapped n cs

def addedText : Nat → Octets → Octets → Octets × Octets
  | 0, acc, cs => (acc.reverse, cs)
  | _, acc, [] => (('\n' :: acc).reverse, [])
  | _, acc, ['\\'] => (('\n' :: acc).reverse, [])
  | n + 1, acc, '\\' :: c :: cs =>
      match Regex.spelled? .controls (c :: cs) with
      | some (d, rest) => addedText n (d :: acc) rest
      | none => addedText n (c :: acc) cs
  | n + 1, acc, c :: cs => if c = '\n' then (('\n' :: acc).reverse, cs) else addedText n (c :: acc) cs

def added (cs : Octets) : Except Problem (Octets × Octets) :=
  match skipBlanks cs with
  | [] => blame .noText []
  | ['\\'] => .ok ([], [])
  | ['\\', '\n'] => .ok (['\n'], [])
  | '\n' :: cs => .ok ([], cs)
  | '\\' :: '\n' :: cs => .ok (addedText cs.length.succ [] cs)
  | '\\' :: cs => .ok (addedText cs.length.succ [] cs)
  | cs => .ok (addedText cs.length.succ [] cs)

def modifiers : Nat → Regex.Mode → Bool → Octets → Regex.Mode × Bool × Octets
  | 0, mode, modified, cs => (mode, modified, cs)
  | n + 1, mode, modified, cs =>
      match skipBlanks cs with
      | 'I' :: cs => modifiers n { mode with ignoreCase := true } true cs
      | 'M' :: cs => modifiers n { mode with multiline := true } true cs
      | _ => (mode, modified, cs)

def matching (extended : Bool) (d : Char) (cs : Octets) : Except Problem (Address × Octets) := do
  match delimited d true [] .outside cs with
  | none => blame .unterminatedAddress (unclosed cs)
  | some (text, rest) =>
      let (mode, modified, rest) := modifiers rest.length.succ ⟨false, false⟩ false rest
      return (.matching (← pattern extended text mode modified rest), rest)

def address? (extended : Bool) (cs : Octets) : Except Problem (Option (RangeEnd × Octets)) := do
  match cs with
  | '$' :: cs => return some (.address .last, cs)
  | '/' :: cs =>
      let (a, rest) ← matching extended '/' cs
      return some (.address a, rest)
  | ['\\'] => blame .unterminatedAddress []
  | '\\' :: d :: cs =>
      let (a, rest) ← matching extended d cs
      return some (.address a, rest)
  | '+' :: cs =>
      let (n, rest) := number (skipBlanks cs)
      return some (.count n, rest)
  | '~' :: cs =>
      let (n, rest) := number (skipBlanks cs)
      return some (.multiple n, rest)
  | c :: cs =>
      if !c.isDigit then return none
      let (first, rest) := number (c :: cs)
      match skipBlanks rest with
      | '~' :: more =>
          let (every, rest) := number (skipBlanks more)
          return some (.address (if every = 0 then .line first else .step first every), rest)
      | _ => return some (.address (.line first), rest)
  | [] => return none

def ending (cs : Octets) : Except Problem Octets :=
  match skipBlanks cs with
  | [] => .ok []
  | '\n' :: cs => .ok cs
  | ';' :: cs => .ok cs
  | '\x7d' :: cs => .ok ('\x7d' :: cs)
  | '#' :: cs => .ok ('#' :: cs)
  | _ :: cs => blame .extra cs

def labelName (cs : Octets) : Octets × Octets :=
  let cs := skipBlanks cs
  let name := cs.takeWhile fun c => c ≠ ';' && c ≠ '\x7d' && c ≠ '#' && !Regex.inSet false ⟨false, Regex.spaceRanges⟩ c
  (name, cs.drop name.length)

def path (cs : Octets) : Except Problem (Octets × Octets) :=
  let cs := skipBlanks cs
  let name := cs.takeWhile (· ≠ '\n')
  if name.isEmpty then blame .noFile cs else .ok (name, cs.drop (name.length + 1))

structure Flags where
  all : Bool := false
  print : Bool := false
  run : Bool := false
  nth : Option Nat := none
  mode : Regex.Mode := ⟨false, false⟩
  modified : Bool := false
  file : Option Octets := none

def flags (sandbox : Bool) : Nat → Flags → Octets → Except Problem (Flags × Octets)
  | 0, f, cs => .ok (f, cs)
  | _, f, [] => .ok (f, [])
  | n + 1, f, c :: cs =>
      match c with
      | 'g' => if f.all then blame (.repeatedFlag 'g') cs else flags sandbox n { f with all := true } cs
      | 'p' => if f.print then blame (.repeatedFlag 'p') cs else flags sandbox n { f with print := true } cs
      | 'i' => flags sandbox n { f with mode := { f.mode with ignoreCase := true }, modified := true } cs
      | 'I' => flags sandbox n { f with mode := { f.mode with ignoreCase := true }, modified := true } cs
      | 'm' => flags sandbox n { f with mode := { f.mode with multiline := true }, modified := true } cs
      | 'M' => flags sandbox n { f with mode := { f.mode with multiline := true }, modified := true } cs
      | 'e' => if sandbox then blame .sandbox cs else flags sandbox n { f with run := true } cs
      | 'w' => do
          if sandbox then blame .sandbox cs
          let (name, rest) ← path cs
          return ({ f with file := some name }, rest)
      | ' ' => flags sandbox n f cs
      | '\t' => flags sandbox n f cs
      | '\x0d' => flags sandbox n f cs
      | ';' => .ok (f, cs)
      | '\n' => .ok (f, cs)
      | '#' => .ok (f, c :: cs)
      | '\x7d' => .ok (f, c :: cs)
      | c =>
          if !c.isDigit then blame .unknownFlag cs
          else
            let (k, rest) := number (c :: cs)
            if f.nth.isSome then blame .repeatedNumber rest
            else if k = 0 then blame .zeroNumber rest
            else flags sandbox n { f with nth := some k } rest

structure Dialect where
  extended : Bool
  sandbox : Bool

def substitution (l : Dialect) (cs : Octets) : Except Problem (Action × Octets) := do
  match cs with
  | [] => blame (.unterminated 's') []
  | '\n' :: cs => blame (.unterminated 's') (unclosed cs)
  | d :: cs =>
      match delimited d true [] .outside cs with
      | none => blame (.unterminated 's') (unclosed cs)
      | some (source, rest) =>
          match delimited d false [] .outside rest with
          | none => blame (.unterminated 's') (unclosed rest)
          | some (target, rest) =>
              let (f, rest) ← flags l.sandbox rest.length.succ {} rest
              let p ← pattern l.extended source f.mode f.modified rest
              let target := pieces target.length.succ target
              let most := target.foldl (fun most piece =>
                match piece with
                | .group n => max most n
                | _ => most) 0
              match p with
              | .given r _ => if r.groupCount < most then blame (.reference most) rest
              | .last => pure ()
              return (.substitute ⟨p, target, f.nth.getD 1, f.all, f.print, f.run, f.file⟩, rest)

def charMap (cs : Octets) : Except Problem (Action × Octets) := do
  match cs with
  | [] => blame (.unterminated 'y') []
  | d :: cs =>
      match delimited d false [] .outside cs with
      | none => blame (.unterminated 'y') (unclosed cs)
      | some (source, rest) =>
          match delimited d false [] .outside rest with
          | none => blame (.unterminated 'y') (unclosed rest)
          | some (target, rest) =>
              let source := mapped source.length.succ source
              let target := mapped target.length.succ target
              if source.length ≠ target.length then blame .lengths rest
              return (.mapChars source target, ← ending rest)

def simple? (c : Char) : Option Action :=
  match c with
  | 'p' => some .print
  | 'P' => some .printFirst
  | 'd' => some .delete
  | 'D' => some .deleteFirst
  | 'n' => some .next
  | 'N' => some .nextAppend
  | '=' => some .number
  | 'h' => some .hold
  | 'H' => some .holdAppend
  | 'g' => some .get
  | 'G' => some .getAppend
  | 'x' => some .exchange
  | 'z' => some .empty
  | 'F' => some .fileName
  | _ => none

def isNewEnough (version : Octets) : Bool :=
  match (Octets.splitOn (· = '.') version).map Octets.nat? with
  | some major :: some minor :: _ => major < 4 || (major = 4 && minor ≤ 9)
  | [some major] => major ≤ 4
  | _ => version.isEmpty

def action (l : Dialect) (addresses : Nat) (c : Char) (cs : Octets) : Except Problem (Action × Octets) := do
  let guarded := fun (make : Octets → Action) => (do
    if l.sandbox then blame .sandbox cs
    let (name, rest) ← path cs
    return (make name, rest) : Except Problem (Action × Octets))
  let status := fun (make : Nat → Action) => (do
    if addresses > 1 then blame .oneAddress cs
    let (n, rest) := number (skipBlanks cs)
    return (make n, ← ending rest) : Except Problem (Action × Octets))
  match simple? c with
  | some a => return (a, ← ending cs)
  | none =>
      match c with
      | 's' => substitution l cs
      | 'y' => charMap cs
      | 'q' => status .quit
      | 'Q' => status .quitSilently
      | 'l' =>
          let ds := (skipBlanks cs).takeWhile Char.isDigit
          return (.list (Octets.nat? ds), ← ending ((skipBlanks cs).drop ds.length))
      | 'a' => return (← added cs).map .append id
      | 'i' => return (← added cs).map .insert id
      | 'c' => return (← added cs).map .change id
      | 'b' => return (labelName cs).map .branch id
      | 't' => return (labelName cs).map (.branchIf true) id
      | 'T' => return (labelName cs).map (.branchIf false) id
      | ':' =>
          if addresses > 0 then blame .labelAddress cs
          let (name, rest) := labelName cs
          if name.isEmpty then blame .noLabel rest
          return (.label name, rest)
      | '\x7b' => return (.opens, cs)
      | '\x7d' =>
          if addresses > 0 then blame .closeAddress cs
          return (.closes, ← ending cs)
      | 'r' => guarded .appendFile
      | 'R' => guarded .appendFileLine
      | 'w' => guarded .writeFile
      | 'W' => guarded .writeFirst
      | 'e' => do
          if l.sandbox then blame .sandbox cs
          match skipBlanks cs with
          | [] => return (.execute [], [])
          | '\n' :: rest => return (.execute [], rest)
          | rest =>
              let (text, rest) ← added rest
              return (.execute text, rest)
      | 'v' =>
          let (name, rest) := labelName cs
          if isNewEnough name then return (.label [], ← ending rest) else blame .newerVersion rest
      | '#' =>
          if addresses > 0 then blame .commentAddress cs
          return (.label [], unclosed cs)
      | c => blame (.unknownCommand c) cs

def command (l : Dialect) (depth : Nat) (cs : Octets) : Except Problem (Command × Octets) := do
  let (first, cs) ← (do
    match ← address? l.extended cs with
    | none => return (none, cs)
    | some (.address a, rest) => return (some a, skipBlanks rest)
    | some (_, rest) => blame .relativeFirst rest : Except Problem (Option Address × Octets))
  let (stop, cs) ← (do
    match first, cs with
    | some _, ',' :: rest =>
        let rest := skipBlanks rest
        match ← address? l.extended rest with
        | none => blame .comma rest.tail
        | some (stop, rest) => return (some stop, skipBlanks rest)
    | _, cs => return (none, cs) : Except Problem (Option RangeEnd × Octets))
  let zero := first = some (.line 0) && !(match stop with
    | some (.address (.matching _)) => true
    | _ => false)
  if zero then blame .zeroAddress cs.tail
  let (negated, cs) := match cs with
    | '!' :: rest => (true, skipBlanks rest)
    | cs => (false, cs)
  match cs with
  | [] => blame .missingCommand []
  | c :: rest =>
      if c = '!' && negated then blame .repeatedBang rest
      if c = '\x7d' && depth = 0 then blame .unexpectedClose rest
      let addresses := (if first.isSome then 1 else 0) + (if stop.isSome then 1 else 0)
      let (a, rest) ← action l addresses c rest
      return (⟨first, stop, negated, a⟩, rest)

def commands (l : Dialect) : Nat → Nat → List Command → Octets → Except Problem (List Command)
  | 0, _, acc, _ => .ok acc.reverse
  | n + 1, depth, acc, cs => do
      let cs := cs.dropWhile fun c => c = ';' || Regex.inSet false ⟨false, Regex.spaceRanges⟩ c
      if cs.isEmpty then
        if depth > 0 then .error ⟨.openGroup, none⟩ else return acc.reverse
      else
        let (made, rest) ← command l depth cs
        let depth := match made.action with
          | .opens => depth + 1
          | .closes => depth - 1
          | _ => depth
        commands l n depth (made :: acc) rest

def parse (l : Dialect) (cs : Octets) : Except Problem (List Command) := commands l cs.length.succ 0 [] cs

end LintBridge.Shell.Sed
