import LintBridge.Shell.Syntax

namespace LintBridge.Shell

inductive SyntaxFault where
  | unexpected (found : String) (expected : Option String)
  | unterminatedQuote
  | missingBrace
  | missingBrackets
  | openBackquote
  | badLoopVariable
  | badFunctionName
  | tooDeep
  deriving DecidableEq, Repr

def SyntaxFault.message : SyntaxFault → String
  | .unexpected found none => found ++ " unexpected"
  | .unexpected found (some expected) => found ++ " unexpected (expecting " ++ expected ++ ")"
  | .unterminatedQuote => "Unterminated quoted string"
  | .missingBrace => "Missing '\x7d'"
  | .missingBrackets => "Missing '))'"
  | .openBackquote => "EOF in backquote substitution"
  | .badLoopVariable => "Bad for loop variable"
  | .badFunctionName => "Bad function name"
  | .tooDeep => "nesting too deep"

namespace Reader

/-- A text that is being read, with the number of its current line and how many lines after that were taken out
of it already. -/
structure Cursor where
  rest : Octets
  line : Nat := 1
  taken : Nat := 0
  aliases : Aliases := []
  /-- How much is left after the text of an alias that ends with a blank: the next word may be an alias too. -/
  aliasEnd : Option Nat := none

/-- A reader takes what it needs from the front of a text. A fault comes with the number of its line. -/
abbrev Read := StateT Cursor (Except (Nat × SyntaxFault))

def fault {α : Type} (f : SyntaxFault) : Read α := do throw ((← get).line, f)

def rest : Read Octets := do return (← get).rest

def newlines (cs : Octets) : Nat := cs.foldl (fun n c => if c = '\n' then n + 1 else n) 0

def advance (n : Nat) : Read Unit :=
  modify fun c =>
    let passed := newlines (c.rest.take n)
    if passed = 0 then { c with rest := c.rest.drop n }
    else { c with rest := c.rest.drop n, line := c.line + passed + c.taken, taken := 0 }

def isMeta (c : Char) : Bool :=
  c = ' ' || c = '\t' || c = '\n' || c = ';' || c = '&' || c = '|' || c = '<' || c = '>' || c = '(' || c = ')'

def isSpecial (c : Char) : Bool :=
  c = '\\' || c = '\x27' || c = '"' || c = '$' || c = '\x60'

def blankLength : Octets → Nat
  | ' ' :: cs => blankLength cs + 1
  | '\t' :: cs => blankLength cs + 1
  | '\\' :: '\n' :: cs => blankLength cs + 2
  | '#' :: cs => 1 + (cs.takeWhile (· ≠ '\n')).length
  | _ => 0

def skipBlank : Read Unit := do advance (blankLength (← rest))

def skipLinesFuel : Nat → Read Unit
  | 0 => fault .tooDeep
  | n + 1 => do
      skipBlank
      match ← rest with
      | '\n' :: _ => do advance 1; skipLinesFuel n
      | _ => return ()

def skipLines : Read Unit := do skipLinesFuel ((← rest).length + 1)

def keywords : List String :=
  ["if", "then", "else", "elif", "fi", "do", "done", "case", "esac", "while", "until", "for", "\x7b", "\x7d", "!", "in"]

def closers : List String := ["then", "else", "elif", "fi", "do", "done", "esac", "\x7d"]

def plainWord (cs : Octets) : Octets :=
  let word := cs.takeWhile fun c => !isMeta c && !isSpecial c
  match cs.drop word.length with
  | c :: _ => if isSpecial c then [] else word
  | [] => word

def insertAlias (name value : Octets) : Read Unit :=
  modify fun c =>
    let after := c.rest.drop name.length
    let blank := match value.getLast? with
      | some c => c = ' ' || c = '\t'
      | none => false
    { c with rest := value ++ after, aliasEnd := if blank then some after.length else none }

/-- Puts the text of an alias in the place of the word here, if an alias came right before it that lets it be one. -/
def followsAlias : Read Bool := do
  let c ← get
  match c.aliasEnd with
  | none => return false
  | some left =>
      if left < c.rest.length then return false
      else
        set { c with aliasEnd := none }
        let word := plainWord c.rest
        match if word.isEmpty then none else c.aliases.lookup word with
        | some value => do
            insertAlias word value
            return true
        | none => return false

def peekWord : Read String := do return String.ofList (plainWord (← rest))

def beginsRedirect : Octets → Bool
  | '<' :: _ => true
  | '>' :: _ => true
  | d :: '<' :: _ => d.isDigit
  | d :: '>' :: _ => d.isDigit
  | _ => false

def nextName : Read String := do
  skipBlank
  let cs ← rest
  let quoted := fun (s : String) => "\"" ++ s ++ "\""
  match cs with
  | [] => return "end of file"
  | '\n' :: _ => return "newline"
  | ';' :: ';' :: _ => return quoted ";;"
  | ';' :: _ => return quoted ";"
  | '&' :: '&' :: _ => return quoted "&&"
  | '&' :: _ => return quoted "&"
  | '|' :: '|' :: _ => return quoted "||"
  | '|' :: _ => return quoted "|"
  | '(' :: _ => return quoted "("
  | ')' :: _ => return quoted ")"
  | cs =>
      if beginsRedirect cs then return "redirection"
      else
        let word ← peekWord
        return if keywords.contains word then quoted word else "word"

def unexpected {α : Type} (expected : Option String) : Read α := do
  fault (.unexpected (← nextName) expected)

def atEnd : Read Bool := do
  match ← rest with
  | [] => return true
  | ')' :: _ => return true
  | ';' :: ';' :: _ => return true
  | _ => return closers.contains (← peekWord)

def keyword (s : String) : Read Unit := do
  skipBlank
  if (← peekWord) = s then advance s.length else unexpected (some ("\"" ++ s ++ "\""))

def sign (c : Char) : Read Unit := do
  skipBlank
  match ← rest with
  | d :: _ => if d = c then advance 1 else unexpected (some ("\"" ++ c.toString ++ "\""))
  | [] => unexpected (some ("\"" ++ c.toString ++ "\""))

def cutLine : Nat → Option Char → Octets → Octets × Octets
  | 0, _, cs => ([], cs)
  | _, _, [] => ([], [])
  | n + 1, quote, c :: cs =>
      let go := fun (quote : Option Char) (taken : Octets) (left : Octets) =>
        let (a, b) := cutLine n quote left
        (taken ++ a, b)
      match quote with
      | some q =>
          if c = '\\' && q = '"' then go quote (c :: cs.take 1) (cs.drop 1)
          else go (if c = q then none else quote) [c] cs
      | none =>
          if c = '\n' then ([c], cs)
          else if c = '\\' then go none (c :: cs.take 1) (cs.drop 1)
          else if c = '\x27' || c = '"' then go (some c) [c] cs
          else go none [c] cs

def cutHere (stripTabs : Bool) (delimiter : Octets) : List (Octets × Bool) → Octets × List (Octets × Bool)
  | [] => ([], [])
  | (line, ended) :: ls =>
      let line := if stripTabs then line.dropWhile (· = '\t') else line
      if line == delimiter then ([], ls)
      else
        let (body, after) := cutHere stripTabs delimiter ls
        (line ++ (if ended then ['\n'] else []) ++ body, after)

def joinLines (ls : List (Octets × Bool)) : Octets :=
  ls.flatMap fun (line, ended) => line ++ (if ended then ['\n'] else [])

/-- Takes the body of an input that stands in the script out of the lines that follow. -/
def takeHere (stripTabs : Bool) (delimiter : Octets) : Read Octets := do
  let cs ← rest
  let (line, after) := cutLine (cs.length + 1) none cs
  let (body, left) := cutHere stripTabs delimiter (Octets.lines after)
  let left := joinLines left
  modify fun c => { c with rest := line ++ left, taken := c.taken + (newlines after - newlines left) }
  return body

def cutBackquoted (inQuotes : Bool) : Octets → Option (Octets × Octets)
  | [] => none
  | '\x60' :: r => some ([], r)
  | '\\' :: c :: r =>
      (cutBackquoted inQuotes r).map fun (a, b) =>
        if c = '$' || c = '\x60' || c = '\\' || (inQuotes && c = '"') then (c :: a, b) else ('\\' :: c :: a, b)
  | c :: r => (cutBackquoted inQuotes r).map fun (a, b) => (c :: a, b)

def plain (w : Word) : Octets × Bool :=
  (w.flatMap fun
    | .text cs _ => cs
    | .home user => '~' :: user
    | _ => [],
   w.any fun
    | .text _ q => q
    | _ => false)

inductive Frame where
  | bare
  | doubleQuotes
  | braces (quoted : Bool)
  | sum (depth : Nat)
  | script

namespace Frame

def isPlain (f : Frame) (c : Char) : Bool :=
  match f with
  | .bare => !isMeta c && !isSpecial c
  | .doubleQuotes => c ≠ '"' && c ≠ '\\' && c ≠ '$' && c ≠ '\x60'
  | .braces quoted => c ≠ '\x7d' && (!isSpecial c || (quoted && c = '\x27'))
  | .sum _ => c ≠ '(' && c ≠ ')' && (!isSpecial c || c = '\x27')
  | .script => c ≠ '\\' && c ≠ '$' && c ≠ '\x60'

def isQuoted : Frame → Bool
  | .bare => false
  | .braces quoted => quoted
  | _ => true

def escapes (f : Frame) (c : Char) : Bool :=
  c = '$' || c = '\x60' || c = '\\' ||
    match f with
    | .doubleQuotes => c = '"'
    | .braces true => c = '"' || c = '\x7d'
    | .sum _ => c = '"'
    | _ => false

end Frame

def specials : Octets := ['@', '*', '#', '?', '-', '$', '!']

def isUserName (c : Char) : Bool := c.isAlphanum || c = '_' || c = '-' || c = '.'

def splitHome (inAssignment last : Bool) : Octets → Option (Octets × Octets)
  | '~' :: cs =>
      let user := cs.takeWhile isUserName
      match cs.drop user.length with
      | [] => if last then some (user, []) else none
      | c :: after => if c = '/' || (inAssignment && c = ':') then some (user, c :: after) else none
  | _ => none

/-- The pieces of a text of an assignment: after every colon a tilde may stand for a home. -/
def homesInText (last : Bool) : Nat → Octets → Word
  | 0, cs => [.text cs false]
  | n + 1, cs =>
      match splitHome true last cs with
      | some (user, after) => .home user :: (if after.isEmpty then [] else colons n after)
      | none => colons n cs
where
  colons (n : Nat) (cs : Octets) : Word :=
    let part := cs.takeWhile (· ≠ ':')
    match cs.drop part.length with
    | c :: after =>
        if after.head? = some '~' then .text (part ++ [c]) false :: homesInText last n after
        else if after.isEmpty then [.text cs false]
        else match homesInText last n after with
          | .text more false :: w => .text (part ++ c :: more) false :: w
          | w => .text (part ++ [c]) false :: w
    | [] => [.text cs false]

def homes (inAssignment : Bool) : Word → Word
  | .text cs false :: w =>
      if cs.contains '~' then
        if inAssignment then homesInText w.isEmpty (cs.length + 1) cs ++ w
        else match splitHome false w.isEmpty cs with
          | some (user, after) => .home user :: (if after.isEmpty then w else .text after false :: w)
          | none => .text cs false :: w
      else .text cs false :: w
  | w => w

def reserved : List String :=
  [":", ".", "break", "continue", "eval", "exec", "exit", "export", "readonly", "return", "set", "shift", "times", "trap",
    "unset"]

mutual

/-- The parts of a word up to where its frame ends; the end itself is taken, unless it ends a bare
word. -/
def readPieces : Nat → Frame → Read Word
  | 0, _ => fault .tooDeep
  | n + 1, frame => do
      let cs ← rest
      let span := cs.takeWhile frame.isPlain
      if !span.isEmpty then do
        advance span.length
        return .text span frame.isQuoted :: (← readPieces n frame)
      else match frame, cs with
        | .bare, [] => return []
        | .script, [] => return []
        | .doubleQuotes, [] => fault .unterminatedQuote
        | .braces quoted, [] => fault (if quoted then .unterminatedQuote else .missingBrace)
        | .sum _, [] => fault .missingBrackets
        | .bare, c :: cs => if isMeta c then return [] else readPiece n frame c cs
        | .doubleQuotes, c :: cs =>
            if c = '"' then do
              advance 1
              return []
            else readPiece n frame c cs
        | .braces _, c :: cs =>
            if c = '\x7d' then do
              advance 1
              return []
            else readPiece n frame c cs
        | .sum depth, c :: cs =>
            if c = '(' then do
              advance 1
              return .text [c] true :: (← readPieces n (.sum (depth + 1)))
            else if c = ')' then
              match depth with
              | d + 1 => do
                  advance 1
                  return .text [c] true :: (← readPieces n (.sum d))
              | 0 => do
                  if cs.head? = some ')' then do
                    advance 2
                    return []
                  else fault .missingBrackets
            else if c = '"' then do
              advance 1
              return .text [c] true :: (← readPieces n frame)
            else readPiece n frame c cs
        | .script, c :: cs => readPiece n frame c cs

def readPiece : Nat → Frame → Char → Octets → Read Word
  | 0, _, _, _ => fault .tooDeep
  | n + 1, frame, c, cs => do
      let quoted := frame.isQuoted
      if c = '\\' then
        match cs with
        | [] => do
            advance 1
            return .text [c] true :: (← readPieces n frame)
        | d :: _ => do
            advance 2
            if d = '\n' then readPieces n frame
            else if !quoted || frame.escapes d then return .text [d] true :: (← readPieces n frame)
            else return .text [c, d] true :: (← readPieces n frame)
      else if c = '\x27' then do
        let inner := cs.takeWhile (· ≠ '\x27')
        if inner.length = cs.length then fault .unterminatedQuote
        else
          advance (inner.length + 2)
          return .text inner true :: (← readPieces n frame)
      else if c = '"' then do
        advance 1
        let inner ← readPieces n .doubleQuotes
        return (if inner.isEmpty then [.text [] true] else inner) ++ (← readPieces n frame)
      else if c = '$' then do
        advance 1
        let piece ← readDollar n quoted
        return piece :: (← readPieces n frame)
      else
        match cutBackquoted quoted cs with
        | none => fault .openBackquote
        | some (inner, after) => do
            let outer ← get
            set { outer with rest := inner, taken := 0 }
            let body ← readList n true
            skipLines
            if !(← rest).isEmpty then unexpected none
            set { outer with rest := after, line := outer.line + newlines inner }
            return .command body quoted :: (← readPieces n frame)

def readDollar : Nat → Bool → Read Piece
  | 0, _ => fault .tooDeep
  | n + 1, quoted => do
      match ← rest with
      | '(' :: '(' :: _ => do
          advance 2
          return .arith (← readPieces n (.sum 0)) quoted
      | '(' :: _ => do
          advance 1
          let body ← readList n true
          sign ')'
          return .command body quoted
      | '\x7b' :: cs => do
          advance 1
          match cs with
          | '#' :: '\x7d' :: _ => do
              advance 2
              return .param ['#'] .plain quoted
          | '#' :: c :: more =>
              if Octets.isName2 c then do
                advance 1
                let p ← readParamName
                match ← rest with
                | '\x7d' :: _ => do
                    advance 1
                    return .length p quoted
                | _ => readBad n quoted
              else if specials.contains c && more.head? = some '\x7d' then do
                advance 3
                return .length [c] quoted
              else readBraced n quoted
          | _ => readBraced n quoted
      | c :: cs =>
          if Octets.isName1 c then do
            let p := (c :: cs).takeWhile Octets.isName2
            advance p.length
            return .param p .plain quoted
          else if c.isDigit || specials.contains c then do
            advance 1
            return .param [c] .plain quoted
          else return .text ['$'] true
      | [] => return .text ['$'] true

def readParamName : Read Octets := do
  match ← rest with
  | c :: cs =>
      let p :=
        if Octets.isName1 c then (c :: cs).takeWhile Octets.isName2
        else if c.isDigit then (c :: cs).takeWhile Char.isDigit
        else if specials.contains c then [c]
        else []
      advance p.length
      return p
  | [] => return []

def readBad : Nat → Bool → Read Piece
  | 0, _ => fault .tooDeep
  | n + 1, quoted => do
      let _ ← readPieces n (.braces quoted)
      return .bad

def readBraced : Nat → Bool → Read Piece
  | 0, _ => fault .tooDeep
  | n + 1, quoted => do
      let p ← readParamName
      let fallback := fun (kind : Fallback) (emptyCounts : Bool) (signs : Nat) => do
        advance signs
        return .param p (.fallback kind emptyCounts (homes false (← readPieces n (.braces quoted)))) quoted
      let trim := fun (fromEnd longest : Bool) (signs : Nat) => do
        advance signs
        return .param p (.trim fromEnd longest (homes false (← readPieces n (.braces false)))) quoted
      if p.isEmpty then readBad n quoted
      else match ← rest with
      | '\x7d' :: _ => do
          advance 1
          return .param p .plain quoted
      | ':' :: '-' :: _ => fallback .useDefault true 2
      | ':' :: '=' :: _ => fallback .assignDefault true 2
      | ':' :: '?' :: _ => fallback .complain true 2
      | ':' :: '+' :: _ => fallback .useAlternative true 2
      | '-' :: _ => fallback .useDefault false 1
      | '=' :: _ => fallback .assignDefault false 1
      | '?' :: _ => fallback .complain false 1
      | '+' :: _ => fallback .useAlternative false 1
      | '%' :: '%' :: _ => trim true true 2
      | '%' :: _ => trim true false 1
      | '#' :: '#' :: _ => trim false true 2
      | '#' :: _ => trim false false 1
      | _ => readBad n quoted

def readWord : Nat → Read Word
  | 0 => fault .tooDeep
  | n + 1 => do
      skipBlank
      let w ← readPieces n .bare
      if w.isEmpty then unexpected none else return homes false w

def readRedirect : Nat → Read (Option Redirect)
  | 0 => fault .tooDeep
  | n + 1 => do
      skipBlank
      let cs ← rest
      if !beginsRedirect cs then return none
      let digits := (cs.take 1).takeWhile Char.isDigit
      let fd := fun (standard : Nat) => (Octets.nat? digits).getD standard
      let file := fun (standard : Nat) (mode : OpenMode) (signs : Nat) => do
        advance (digits.length + signs)
        return some (Redirect.file (fd standard) mode (← readWord n))
      let here := fun (stripTabs : Bool) (signs : Nat) => do
        advance (digits.length + signs)
        let (delimiter, quoted) := plain (← readWord n)
        let body ← takeHere stripTabs delimiter
        if quoted then return some (Redirect.here (fd 0) [.text body true])
        else
          let outer ← get
          set { outer with rest := body }
          let w ← readPieces n .script
          set outer
          return some (Redirect.here (fd 0) w)
      match cs.drop digits.length with
      | '<' :: '<' :: '-' :: _ => here true 3
      | '<' :: '<' :: _ => here false 2
      | '<' :: '&' :: _ => file 0 .duplicate 2
      | '<' :: '>' :: _ => file 0 .readWrite 2
      | '<' :: _ => file 0 .read 1
      | '>' :: '>' :: _ => file 1 .append 2
      | '>' :: '&' :: _ => file 1 .duplicate 2
      | '>' :: '|' :: _ => file 1 .overwrite 2
      | _ => file 1 .write 1

def readRedirects : Nat → Read (List Redirect)
  | 0 => fault .tooDeep
  | n + 1 => do
      match ← readRedirect n with
      | some r => return r :: (← readRedirects n)
      | none => return []

def readSimple : Nat → Bool → Read (List (Octets × Word) × List Word × List Redirect)
  | 0, _ => fault .tooDeep
  | n + 1, wordsBegun => do
      match ← readRedirect n with
      | some r => do
          let (assigns, words, redirects) ← readSimple n wordsBegun
          return (assigns, words, r :: redirects)
      | none =>
          match ← rest with
          | [] => return ([], [], [])
          | c :: cs =>
              if isMeta c then return ([], [], [])
              else
                let var := (c :: cs).takeWhile Octets.isName2
                if !wordsBegun && Octets.isName var && ((c :: cs).drop var.length).head? = some '=' then do
                  advance (var.length + 1)
                  let value ← readPieces n .bare
                  let (assigns, words, redirects) ← readSimple n false
                  return ((var, homes true value) :: assigns, words, redirects)
                else if ← followsAlias then readSimple n wordsBegun
                else do
                  let w ← readWord n
                  let (assigns, words, redirects) ← readSimple n true
                  return (assigns, w :: words, redirects)

def readWords : Nat → Read (List Word)
  | 0 => fault .tooDeep
  | n + 1 => do
      skipBlank
      match ← rest with
      | [] => return []
      | c :: _ =>
          if isMeta c then return []
          else
            let w ← readWord n
            return w :: (← readWords n)

def readPatterns : Nat → Read (List Word)
  | 0 => fault .tooDeep
  | n + 1 => do
      skipBlank
      if (← rest).isEmpty then unexpected (some "\")\"")
      let w ← readWord n
      skipBlank
      match ← rest with
      | '|' :: '|' :: _ => unexpected (some "\")\"")
      | '|' :: _ => do
          advance 1
          return w :: (← readPatterns n)
      | ')' :: _ => do
          advance 1
          return [w]
      | _ => unexpected (some "\")\"")

def readCases : Nat → Read (List (List Word × List Command))
  | 0 => fault .tooDeep
  | n + 1 => do
      skipLines
      if (← peekWord) = "esac" then do
        advance 4
        return []
      else
        match ← rest with
        | '(' :: _ => advance 1
        | _ => pure ()
        let patterns ← readPatterns n
        let body ← readList n true
        skipLines
        match ← rest with
        | ';' :: ';' :: _ => do
            advance 2
            return (patterns, body) :: (← readCases n)
        | _ => do
            if (← peekWord) = "esac" then do
              advance 4
              return [(patterns, body)]
            else unexpected (some "\";;\"")

def readConditional : Nat → Read (List Command × List Command × List Command)
  | 0 => fault .tooDeep
  | n + 1 => do
      let test ← readList n false
      keyword "then"
      let body ← readList n false
      let word ← peekWord
      if word = "elif" then do
        advance 4
        let (t, b, o) ← readConditional n
        return (test, body, [.conditional t b o []])
      else if word = "else" then do
        advance 4
        let other ← readList n false
        keyword "fi"
        return (test, body, other)
      else do
        keyword "fi"
        return (test, body, [])

/-- A command; where it begins, words may stand for others. -/
def readCommand : Nat → List Octets → Read Command
  | 0, _ => fault .tooDeep
  | n + 1, used => do
      skipBlank
      let cs ← rest
      let word := plainWord cs
      let text := String.ofList word
      if used.isEmpty then modify fun c => { c with aliasEnd := none }
      let cursor ← get
      let line := cursor.line
      match (if word.isEmpty || used.contains word then none else cursor.aliases.lookup word) with
      | some value => do
          insertAlias word value
          readCommand n (word :: used)
      | none =>
      if cs.head? = some '(' then do
        advance 1
        let body ← readList n false
        sign ')'
        return .subshell body (← readRedirects n)
      else if beginsRedirect cs then do
        let (assigns, words, redirects) ← readSimple n false
        return .simple line assigns words redirects
      else match text with
      | "\x7b" => do
          advance 1
          let body ← readList n false
          keyword "\x7d"
          return .group body (← readRedirects n)
      | "if" => do
          advance 2
          let (test, body, other) ← readConditional n
          return .conditional test body other (← readRedirects n)
      | "while" => readLoop n false
      | "until" => readLoop n true
      | "for" => do
          advance 3
          skipBlank
          let var := plainWord (← rest)
          if !Octets.isName var then fault .badLoopVariable
          advance var.length
          skipLines
          let words ← (do
            if (← peekWord) = "in" then do
              advance 2
              let ws ← readWords n
              skipBlank
              match ← rest with
              | ';' :: ';' :: _ => unexpected none
              | ';' :: _ => advance 1
              | '\n' :: _ => advance 1
              | _ => unexpected none
              pure (some ws)
            else do
              match ← rest with
              | ';' :: ';' :: _ => pure ()
              | ';' :: _ => advance 1
              | _ => pure ()
              pure none)
          skipLines
          keyword "do"
          let body ← readList n false
          keyword "done"
          return .forEach line var words body (← readRedirects n)
      | "case" => do
          advance 4
          let w ← readWord n
          skipLines
          keyword "in"
          let cases ← readCases n
          return .select w cases (← readRedirects n)
      | text =>
          if keywords.contains text || cs.isEmpty || cs.head?.any isMeta then unexpected none
          else do
            let before ← get
            advance word.length
            skipBlank
            match word.isEmpty, ← rest with
            | false, '(' :: _ => do
                advance 1
                sign ')'
                if !Octets.isName word || reserved.contains text then fault .badFunctionName
                skipLines
                return .define word (← readCommand n [])
            | _, _ => do
                set before
                let (assigns, words, redirects) ← readSimple n false
                return .simple line assigns words redirects

def readLoop : Nat → Bool → Read Command
  | 0, _ => fault .tooDeep
  | n + 1, negated => do
      advance 5
      let test ← readList n false
      keyword "do"
      let body ← readList n false
      keyword "done"
      return .loop negated test body (← readRedirects n)

def readPipe : Nat → Read (List Command)
  | 0 => fault .tooDeep
  | n + 1 => do
      let c ← readCommand n []
      skipBlank
      match ← rest with
      | '|' :: '|' :: _ => return [c]
      | '|' :: _ => do
          advance 1
          skipLines
          return c :: (← readPipe n)
      | _ => return [c]

def readPipeline : Nat → Read Command
  | 0 => fault .tooDeep
  | n + 1 => do
      skipBlank
      if (← peekWord) = "!" then do
        advance 1
        return .pipeline true (← readPipe n)
      else
        match ← readPipe n with
        | [c] => return c
        | cs => return .pipeline false cs

def readChain : Nat → Command → Read Command
  | 0, _ => fault .tooDeep
  | n + 1, c => do
      skipBlank
      match ← rest with
      | '&' :: '&' :: _ => do
          advance 2
          skipLines
          let d ← readPipeline n
          readChain n (.and c d)
      | '|' :: '|' :: _ => do
          advance 2
          skipLines
          let d ← readPipeline n
          readChain n (.or c d)
      | _ => return c

def readItem : Nat → Read (Command × Bool)
  | 0 => fault .tooDeep
  | n + 1 => do
      let first ← readPipeline n
      let c ← readChain n first
      skipBlank
      match ← rest with
      | ';' :: ';' :: _ => return (c, false)
      | ';' :: _ => do
          advance 1
          return (c, true)
      | '&' :: _ => do
          advance 1
          return (.background c, true)
      | '\n' :: _ => return (c, true)
      | _ => return (c, false)

def readList : Nat → Bool → Read (List Command)
  | 0, _ => fault .tooDeep
  | n + 1, mayEnd => do
      skipLines
      if (← rest).isEmpty || (mayEnd && (← atEnd)) then return []
      else
        let (c, goesOn) ← readItem n
        if goesOn then return c :: (← readList n true) else do
          skipLines
          return [c]

end

def readLine : Nat → Read (List Command)
  | 0 => fault .tooDeep
  | n + 1 => do
      skipBlank
      match ← rest with
      | [] => return []
      | '\n' :: _ => do
          advance 1
          return []
      | cs => do
          let (c, goesOn) ← readItem (8 * cs.length + 64)
          if goesOn then return c :: (← readLine n)
          else if (← rest).isEmpty then return [c]
          else unexpected none

end Reader

def Reader.next (c : Reader.Cursor) : Except (Nat × SyntaxFault) (Option (List Command × Reader.Cursor)) :=
  if c.rest.isEmpty then .ok none
  else (Reader.readLine (c.rest.length + 1) c).map some

end LintBridge.Shell
