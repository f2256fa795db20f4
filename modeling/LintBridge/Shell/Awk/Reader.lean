import LintBridge.Shell.Awk
import LintBridge.Shell.Real
import LintBridge.Shell.Regex.Reader

namespace LintBridge.Shell.Awk

inductive Kind where
  | num (x : Float)
  | str (cs : Octets)
  | regex (cs : Octets)
  | name (s : String)
  | callee (s : String)
  | function (f : Function)
  | keyword (s : String)
  | sign (s : String)
  | newline

structure Token where
  kind : Kind
  line : Nat
  text : Octets

def keywords : List String := ["BEGIN", "END", "function", "if", "else", "while", "for", "do", "break", "continue", "next",
  "nextfile", "exit", "return", "delete", "in", "getline", "print", "printf"]

def signs : List String := ["&&", "||", "++", "--", "+=", "-=", "*=", "/=", "%=", "^=", "==", "<=", ">=", "!=", "!~", ">>",
  "\x7b", "\x7d", "(", ")", "[", "]", ";", ",", "+", "-", "*", "/", "%", "^", "!", ">", "<", "|", "?", ":", "~", "$", "="]

inductive Fault where
  | near (token : Octets)
  | lineEnd
  | missing (bracket : Char) (token : Octets)
  | endOfFile
  | runaway (what : String) (text : Octets)
  | character (c : Char)
  | undefined (name : String)
  | arguments (name : String)
  | misplaced (statement : String)
  | outside (statement place : String)
  | regex (reason : String) (text : Octets)
  deriving DecidableEq, Repr

def beginning (text : Octets) : Octets := text.take 11 ++ " ...".toList

def Fault.message : Fault → Octets
  | .near token => "syntax error at or near ".toList ++ token
  | .lineEnd => "syntax error at or near end of line".toList
  | .missing bracket token => "missing ".toList ++ bracket :: " near ".toList ++ token
  | .endOfFile => "missing \x7d near end of file".toList
  | .runaway what text => "runaway ".toList ++ what.toList ++ ' ' :: beginning text
  | .character c => "unexpected character '".toList ++ [c, '\x27']
  | .undefined name => "function ".toList ++ name.toList ++ " never defined".toList
  | .arguments name => "wrong number of arguments in call to ".toList ++ name.toList
  | .misplaced statement => "improper use of ".toList ++ statement.toList
  | .outside statement place => statement.toList ++ " outside ".toList ++ place.toList
  | .regex reason text =>
      "regular expression compile failed (".toList ++ reason.toList ++ ")\n".toList ++ text

structure Problem where
  fault : Fault
  line : Nat
  deriving DecidableEq, Repr

def quoted : Nat → Octets → Octets → Option (Octets × Octets)
  | 0, _, _ => none
  | _, _, [] => none
  | n + 1, acc, '\\' :: c :: cs =>
      match c with
      | '\n' => quoted n acc cs
      | '"' => quoted n ('"' :: acc) cs
      | '\\' => quoted n ('\\' :: acc) cs
      | '/' => quoted n ('/' :: '\\' :: acc) cs
      | c =>
          let hex := if c = 'x' then Regex.numbered? 16 2 cs else none
          match hex.or (Regex.spelled? .strings (c :: cs)) with
          | some (d, rest) => quoted n (d :: acc) rest
          | none => quoted n (c :: '\\' :: acc) cs
  | n + 1, acc, c :: cs =>
      if c = '"' then some (acc.reverse, cs) else if c = '\n' then none else quoted n (c :: acc) cs

/-- The text of an expression up to the slash that ends it; within brackets a slash stands for itself. -/
def slashed : Nat → Bool → Octets → Octets → Option (Octets × Octets)
  | 0, _, _, _ => none
  | _, _, _, [] => none
  | n + 1, inside, acc, '\\' :: c :: cs =>
      if c = '\n' then none
      else if c = '/' then slashed n inside ('/' :: acc) cs
      else slashed n inside (c :: '\\' :: acc) cs
  | n + 1, true, acc, c :: cs =>
      if c = '\n' then none else slashed n (c ≠ ']') (c :: acc) cs
  | n + 1, false, acc, c :: cs =>
      if c = '/' then some (acc.reverse, cs)
      else if c = '\n' then none
      else if c = '[' then
        match cs with
        | '^' :: ']' :: rest => slashed n true (']' :: '^' :: c :: acc) rest
        | ']' :: rest => slashed n true (']' :: c :: acc) rest
        | cs => slashed n true (c :: acc) cs
      else slashed n false (c :: acc) cs

def endsOperand : Option Kind → Bool
  | some (.num _) => true
  | some (.str _) => true
  | some (.name _) => true
  | some (.function _) => true
  | some (.sign s) => s == ")" || s == "]" || s == "$" || s == "++" || s == "--"
  | _ => false

def wordKind (word : String) (bracket : Bool) : Kind :=
  if keywords.contains word then .keyword word
  else match Function.names.lookup word with
    | some f => .function f
    | none => if bracket then .callee word else .name word

def tokensFuel : Nat → Nat → Option Kind → List Token → Octets → Except Problem (List Token)
  | 0, _, _, acc, _ => .ok acc.reverse
  | _, _, _, acc, [] => .ok acc.reverse
  | n + 1, line, last, acc, c :: cs =>
      let go := fun (kind : Kind) (left : Octets) =>
        let used := (c :: cs).take ((c :: cs).length - left.length)
        tokensFuel n (line + (used.filter (· = '\n')).length) (some kind) (⟨kind, line, used⟩ :: acc) left
      if c = ' ' || c = '\t' || c = '\x0d' then tokensFuel n line last acc cs
      else if c = '\\' && cs.head? = some '\n' then tokensFuel n (line + 1) last acc cs.tail
      else if c = '\\' && cs.take 2 = ['\x0d', '\n'] then tokensFuel n (line + 1) last acc (cs.drop 2)
      else if c = '\n' then go .newline cs
      else if c = '#' then tokensFuel n line last acc (cs.dropWhile (· ≠ '\n'))
      else if c = '"' then
        match quoted cs.length.succ [] cs with
        | some (s, left) => go (.str s) left
        | none => .error ⟨.runaway "string constant" (c :: cs), line⟩
      else if c = '/' && !endsOperand last then
        match slashed cs.length.succ false [] cs with
        | some (s, left) => go (.regex s) left
        | none => .error ⟨.runaway "regular expression" (c :: cs), line⟩
      else if c.isDigit || (c = '.' && cs.head?.any Char.isDigit) then
        match Real.readDecimal (c :: cs) with
        | some (x, used) => go (.num x) ((c :: cs).drop used)
        | none => .error ⟨.character c, line⟩
      else if Octets.isName1 c then
        let word := (c :: cs).takeWhile Octets.isName2
        let left := (c :: cs).drop word.length
        go (wordKind (String.ofList word) (left.head? = some '(')) left
      else match signs.find? fun s => s.toList.isPrefixOf (c :: cs) with
        | some s => go (.sign s) ((c :: cs).drop s.length)
        | none => .error ⟨.character c, line⟩

def tokens (cs : Octets) : Except Problem (List Token) := tokensFuel cs.length.succ 1 none [] cs

structure Reading where
  left : List Token
  lastLine : Nat
  names : List String := firstNames
  parameters : List String := []
  functions : List Definition := []
  calls : List String := []
  ranges : Nat := 0
  loops : Nat := 0
  inFunction : Bool := false
  inRecord : Bool := false

abbrev Read := StateT Reading (Except Problem)

def peek : Read (Option Token) := do return (← get).left.head?

def peekKind : Read (Option Kind) := do return (← peek).map (·.kind)

def drop : Read Unit := modify fun s => { s with left := s.left.tail }

def fault {α : Type} : Read α := do
  match ← peek with
  | none => throw ⟨.endOfFile, (← get).lastLine⟩
  | some t =>
      match t.kind with
      | .newline => throw ⟨.lineEnd, t.line⟩
      | _ => throw ⟨.near t.text, t.line⟩

def blame {α : Type} (f : Fault) : Read α := do
  match ← peek with
  | none => throw ⟨f, (← get).lastLine⟩
  | some t => throw ⟨f, t.line⟩

def isSign (k : Option Kind) (s : String) : Bool :=
  match k with
  | some (.sign t) => t == s
  | _ => false

def isKeyword (k : Option Kind) (s : String) : Bool :=
  match k with
  | some (.keyword t) => t == s
  | _ => false

def takes (s : String) : Read Bool := do
  if isSign (← peekKind) s then
    drop
    return true
  else return false

def takesKeyword (s : String) : Read Bool := do
  if isKeyword (← peekKind) s then
    drop
    return true
  else return false

def sign (s : String) : Read Unit := do if !(← takes s) then fault

def closing : Read Unit := do
  if !(← takes ")") then
    match ← peek with
    | some t => throw ⟨.missing ')' t.text, t.line⟩
    | none => fault

def skipNewlinesFuel : Nat → Read Unit
  | 0 => return ()
  | n + 1 => do
      match ← peekKind with
      | some .newline => do
          drop
          skipNewlinesFuel n
      | _ => return ()

def skipNewlines : Read Unit := do skipNewlinesFuel (← get).left.length

def skipEndsFuel : Nat → Read Unit
  | 0 => return ()
  | n + 1 => do
      match ← peekKind with
      | some .newline => do
          drop
          skipEndsFuel n
      | some (.sign s) =>
          if s == ";" then
            drop
            skipEndsFuel n
          else return ()
      | _ => return ()

def skipEnds : Read Unit := do skipEndsFuel (← get).left.length

def variableOf (name : String) : Read Variable := do
  let s ← get
  match s.parameters.findIdx? (· == name) with
  | some i => return .parameter i
  | none =>
      match Special.names.lookup name with
      | some special => return .special special
      | none =>
          match s.names.findIdx? (· == name) with
          | some i => return .shared i
          | none => do
              set { s with names := s.names ++ [name] }
              return .shared s.names.length

def regexReason : Regex.Fault → String
  | .openGroup => "missing ')'"
  | .closedGroup => "missing '('"
  | .openBracket => "bad class -- [], [^] or ["
  | .lastBracket => "bad class -- [], [^] or ["
  | .nothingRepeated => "missing operand"
  | f => f.message

def regexOf (cs : Octets) : Read Regex := do
  match Regex.parse .awk cs with
  | .ok r => return r
  | .error f => blame (.regex (regexReason f) cs)

def assignments : List (String × Option Operator) :=
  [("=", none), ("+=", some .add), ("-=", some .subtract), ("*=", some .multiply), ("/=", some .divide),
    ("%=", some .modulo), ("^=", some .power)]

def comparisons : List (String × Comparison) :=
  [("<", .less), ("<=", .atMost), ("==", .equal), ("!=", .different), (">", .greater), (">=", .atLeast)]

def isTarget : Expr → Bool
  | .var _ => true
  | .field _ => true
  | .item _ _ => true
  | _ => false

def beginsOperand : Option Kind → Bool
  | some (.num _) => true
  | some (.str _) => true
  | some (.regex _) => true
  | some (.name _) => true
  | some (.callee _) => true
  | some (.function _) => true
  | some (.sign s) => s == "$" || s == "(" || s == "!" || s == "++" || s == "--"
  | _ => false

def beginsTarget : Option Kind → Bool
  | some (.name _) => true
  | some (.sign s) => s == "$"
  | _ => false

abbrev InPrint := Bool

mutual

def readExpr : Nat → InPrint → Read Expr
  | 0, _ => fault
  | n + 1, inPrint => do
      let c ← readOr n inPrint
      if ← takes "?" then
        skipNewlines
        let a ← readExpr n inPrint
        skipNewlines
        sign ":"
        skipNewlines
        return .cond c a (← readExpr n inPrint)
      else return c

def readOr : Nat → InPrint → Read Expr
  | 0, _ => fault
  | n + 1, inPrint => do
      let a ← readAnd n inPrint
      readOrMore n inPrint a

def readOrMore : Nat → InPrint → Expr → Read Expr
  | 0, _, _ => fault
  | n + 1, inPrint, a => do
      if ← takes "||" then
        skipNewlines
        let b ← readAnd n inPrint
        readOrMore n inPrint (.either a b)
      else return a

def readAnd : Nat → InPrint → Read Expr
  | 0, _ => fault
  | n + 1, inPrint => do
      let a ← readMember n inPrint
      readAndMore n inPrint a

def readAndMore : Nat → InPrint → Expr → Read Expr
  | 0, _, _ => fault
  | n + 1, inPrint, a => do
      if ← takes "&&" then
        skipNewlines
        let b ← readMember n inPrint
        readAndMore n inPrint (.both a b)
      else return a

def readMember : Nat → InPrint → Read Expr
  | 0, _ => fault
  | n + 1, inPrint => do
      let a ← readMatch n inPrint
      readMemberMore n a

def readMemberMore : Nat → Expr → Read Expr
  | 0, _ => fault
  | n + 1, a => do
      if ← takesKeyword "in" then
        match ← peekKind with
        | some (.name array) => do
            drop
            readMemberMore n (.member [a] (← variableOf array))
        | _ => fault
      else return a

def readMatch : Nat → InPrint → Read Expr
  | 0, _ => fault
  | n + 1, inPrint => do
      let a ← readCompare n inPrint
      readMatchMore n inPrint a

def readMatchMore : Nat → InPrint → Expr → Read Expr
  | 0, _, _ => fault
  | n + 1, inPrint, a => do
      if ← takes "~" then
        let b ← readCompare n inPrint
        readMatchMore n inPrint (.hits a b true)
      else if ← takes "!~" then
        let b ← readCompare n inPrint
        readMatchMore n inPrint (.hits a b false)
      else return a

def readCompare : Nat → InPrint → Read Expr
  | 0, _ => fault
  | n + 1, inPrint => do
      let a ← readConcat n
      readCompareMore n inPrint a

def readCompareMore : Nat → InPrint → Expr → Read Expr
  | 0, _, _ => fault
  | n + 1, inPrint, a => do
      match ← peekKind with
      | some (.sign s) =>
          match comparisons.lookup s with
          | some op =>
              if s == ">" && inPrint then return a
              else do
                drop
                let b ← readConcat n
                readCompareMore n inPrint (.compare op a b)
          | none => return a
      | _ => return a

def readConcat : Nat → Read Expr
  | 0 => fault
  | n + 1 => do
      let a ← readSum n
      readConcatMore n a

def readConcatMore : Nat → Expr → Read Expr
  | 0, _ => fault
  | n + 1, a => do
      let next ← peekKind
      if beginsOperand next || isKeyword next "getline" then
        let b ← readSum n
        readConcatMore n (.concat a b)
      else return a

def readSum : Nat → Read Expr
  | 0 => fault
  | n + 1 => do
      let a ← readProduct n
      readSumMore n a

def readSumMore : Nat → Expr → Read Expr
  | 0, _ => fault
  | n + 1, a => do
      if ← takes "+" then
        let b ← readProduct n
        readSumMore n (.arith .add a b)
      else if ← takes "-" then
        let b ← readProduct n
        readSumMore n (.arith .subtract a b)
      else return a

def readProduct : Nat → Read Expr
  | 0 => fault
  | n + 1 => do
      let a ← readSigned n
      readProductMore n a

def readProductMore : Nat → Expr → Read Expr
  | 0, _ => fault
  | n + 1, a => do
      if ← takes "*" then
        let b ← readSigned n
        readProductMore n (.arith .multiply a b)
      else if ← takes "/" then
        let b ← readSigned n
        readProductMore n (.arith .divide a b)
      else if ← takes "%" then
        let b ← readSigned n
        readProductMore n (.arith .modulo a b)
      else return a

def readSigned : Nat → Read Expr
  | 0 => fault
  | n + 1 => do
      if ← takes "!" then return .sign .negation (← readSigned n)
      else if ← takes "-" then return .sign .minus (← readSigned n)
      else if ← takes "+" then return .sign .plus (← readSigned n)
      else
        let a ← readPower n
        readPiped n a

def readPiped : Nat → Expr → Read Expr
  | 0, _ => fault
  | n + 1, a => do
      match (← get).left with
      | ⟨.sign "|", _, _⟩ :: ⟨.keyword "getline", _, _⟩ :: rest => do
          modify fun s => { s with left := rest }
          let target ← readTarget n
          readPiped n (.getCommand a target)
      | _ => return a

def readTarget : Nat → Read (Option Expr)
  | 0 => fault
  | n + 1 => do
      if beginsTarget (← peekKind) then return some (← readPrimary n) else return none

def readPower : Nat → Read Expr
  | 0 => fault
  | n + 1 => do
      let a ← readBumped n
      if ← takes "^" then return .arith .power a (← readSigned n) else return a

def readBumped : Nat → Read Expr
  | 0 => fault
  | n + 1 => do
      if ← takes "++" then return .bump (← readPrimary n) 1 true
      else if ← takes "--" then return .bump (← readPrimary n) (-1) true
      else
        let a ← readPrimary n
        if !isTarget a then return a
        match ← peekKind with
        | some (.sign "++") => do
            drop
            return .bump a 1 false
        | some (.sign "--") => do
            drop
            return .bump a (-1) false
        | some (.sign s) =>
            match assignments.lookup s with
            | some op => do
                drop
                skipNewlines
                return .assign a op (← readExpr n false)
            | none => return a
        | _ => return a

def readPrimary : Nat → Read Expr
  | 0 => fault
  | n + 1 => do
      match ← peekKind with
      | some (.num x) => do
          drop
          return .num x
      | some (.str cs) => do
          drop
          return .str cs
      | some (.regex cs) => do
          let r ← regexOf cs
          drop
          return .regex r
      | some (.sign "$") => do
          drop
          if ← takes "++" then return .field (.bump (← readPrimary n) 1 true)
          else if ← takes "--" then return .field (.bump (← readPrimary n) (-1) true)
          else if ← takes "-" then return .field (.sign .minus (← readPrimary n))
          else return .field (← readPrimary n)
      | some (.sign "(") => do
          drop
          let es ← readArgs n
          closing
          match es with
          | [e] => return e
          | es => do
              if !es.isEmpty && (← takesKeyword "in") then
                match ← peekKind with
                | some (.name array) => do
                    drop
                    return .member es (← variableOf array)
                | _ => fault
              else fault
      | some (.sign "-") => do
          drop
          return .sign .minus (← readPrimary n)
      | some (.callee name) => do
          drop
          drop
          let args ← readArgs n
          closing
          modify fun s => { s with calls := name :: s.calls }
          return .call name args
      | some (.function f) => do
          drop
          let args ← (do
            if ← takes "(" then
              let args ← readArgs n
              closing
              return args
            else if f = .length then return []
            else fault : Read (List Expr))
          let (low, high) := f.arity
          if args.length < low || args.length > high then blame (.arguments f.name)
          return .builtIn f args
      | some (.keyword "getline") => do
          drop
          let target ← readTarget n
          if ← takes "<" then return .getFile (← readBumped n) target else return .getMain target
      | some (.name name) => do
          drop
          let v ← variableOf name
          if ← takes "[" then
            let index ← readArgs n
            sign "]"
            return .item v index
          else return .var v
      | _ => fault

def readArgs : Nat → Read (List Expr)
  | 0 => fault
  | n + 1 => do
      skipNewlines
      if isSign (← peekKind) ")" || isSign (← peekKind) "]" then return []
      else
        let e ← readExpr n false
        skipNewlines
        if ← takes "," then
          skipNewlines
          return e :: (← readArgs n)
        else return [e]

end

def endsPrint (k : Option Kind) : Bool :=
  match k with
  | none => true
  | some .newline => true
  | some (.sign s) => [";", "\x7d", ">", ">>", "|"].contains s
  | _ => false

def readPrinted (fuel : Nat) : Nat → Read (List Expr)
  | 0 => fault
  | n + 1 => do
      let e ← readExpr fuel true
      if ← takes "," then
        skipNewlines
        return e :: (← readPrinted fuel n)
      else return [e]

def readSink (fuel : Nat) : Read Sink := do
  if ← takes ">" then return .file (← readExpr fuel true)
  else if ← takes ">>" then return .append (← readExpr fuel true)
  else if ← takes "|" then return .pipe (← readExpr fuel true)
  else return .output

/-- What is printed, and where to. Arguments in brackets count as the whole list, unless an expression goes on after
them. -/
def readPrintArgs (fuel : Nat) : Read (List Expr × Sink) := do
  let start ← get
  let bracketed : Option (List Expr × Reading) :=
    if isSign ((start.left.head?).map (·.kind)) "(" then
      match ((do
        drop
        let args ← readArgs fuel
        closing
        return args : Read (List Expr))).run start with
      | .ok (args, after) => if endsPrint ((after.left.head?).map (·.kind)) then some (args, after) else none
      | .error _ => none
    else none
  let args ← (match bracketed with
    | some (args, after) => do
        set after
        return args
    | none => do if endsPrint (← peekKind) then return [] else readPrinted fuel fuel)
  return (args, ← readSink fuel)

mutual

def readStmt : Nat → Read Stmt
  | 0 => fault
  | n + 1 => do
      match ← peekKind with
      | some (.sign "\x7b") => return .block (← readBlock n)
      | some (.sign ";") => do
          drop
          return .block []
      | some (.keyword "if") => do
          drop
          sign "("
          let c ← readExpr n false
          closing
          skipNewlines
          let a ← readStmt n
          let before ← get
          skipEnds
          if ← takesKeyword "else" then
            skipNewlines
            return .cond c [a] [← readStmt n]
          else
            set before
            return .cond c [a] []
      | some (.keyword "while") => do
          drop
          sign "("
          let c ← readExpr n false
          closing
          if ← takes ";" then return .loop (some c) [] [] true
          skipNewlines
          return .loop (some c) [← readInLoop n] [] true
      | some (.keyword "do") => do
          drop
          skipNewlines
          let body ← readInLoop n
          skipEnds
          if !(← takesKeyword "while") then fault
          sign "("
          let c ← readExpr n false
          closing
          return .loop (some c) [body] [] false
      | some (.keyword "for") => do
          drop
          readFor n
      | _ => readSimple n

def readInLoop : Nat → Read Stmt
  | 0 => fault
  | n + 1 => do
      modify fun s => { s with loops := s.loops + 1 }
      let body ← readStmt n
      modify fun s => { s with loops := s.loops - 1 }
      return body

def readFor : Nat → Read Stmt
  | 0 => fault
  | n + 1 => do
      sign "("
      match (← get).left with
      | ⟨.name v, _, _⟩ :: ⟨.keyword "in", _, _⟩ :: ⟨.name array, _, _⟩ :: ⟨.sign ")", _, _⟩ :: rest => do
          modify fun s => { s with left := rest }
          let v ← variableOf v
          let array ← variableOf array
          skipNewlines
          return .each v array [← readInLoop n]
      | _ => do
          let first ← (do if isSign (← peekKind) ";" then return [] else return [← readSimple n] : Read (List Stmt))
          sign ";"
          skipNewlines
          let c ← (do if isSign (← peekKind) ";" then return none else return some (← readExpr n false) : Read (Option Expr))
          sign ";"
          skipNewlines
          let step ← (do if isSign (← peekKind) ")" then return [] else return [← readSimple n] : Read (List Stmt))
          closing
          if ← takes ";" then return .block (first ++ [.loop c [] step true])
          skipNewlines
          let body ← readInLoop n
          return .block (first ++ [.loop c [body] step true])

def readSimple : Nat → Read Stmt
  | 0 => fault
  | n + 1 => do
      match ← peekKind with
      | some (.keyword "print") => do
          drop
          let (args, sink) ← readPrintArgs n
          return .print args sink
      | some (.keyword "printf") => do
          drop
          let (args, sink) ← readPrintArgs n
          if args.isEmpty then blame (.arguments "printf")
          return .printf args sink
      | some (.keyword "next") => do
          let s ← get
          if !s.inRecord then blame (.misplaced "next")
          drop
          return .next
      | some (.keyword "nextfile") => do
          let s ← get
          if !s.inRecord then blame (.misplaced "nextfile")
          drop
          return .nextFile
      | some (.keyword "exit") => do
          drop
          if endsPrint (← peekKind) then return .exit none else return .exit (some (← readExpr n false))
      | some (.keyword "return") => do
          let s ← get
          if !s.inFunction then blame (.outside "return" "function body")
          drop
          if endsPrint (← peekKind) then return .returns none else return .returns (some (← readExpr n false))
      | some (.keyword "break") => do
          let s ← get
          if s.loops = 0 then blame (.outside "break statement" "of loop")
          drop
          return .breaks
      | some (.keyword "continue") => do
          let s ← get
          if s.loops = 0 then blame (.outside "continue statement" "of loop")
          drop
          return .continues
      | some (.keyword "delete") => do
          drop
          match ← peekKind with
          | some (.name array) => do
              drop
              let v ← variableOf array
              if ← takes "[" then
                let index ← readArgs n
                sign "]"
                return .delete v index
              else return .deleteAll v
          | _ => fault
      | _ => return .expr (← readExpr n false)

def readBlock : Nat → Read (List Stmt)
  | 0 => fault
  | n + 1 => do
      sign "\x7b"
      readStmts n

def readStmts : Nat → Read (List Stmt)
  | 0 => fault
  | n + 1 => do
      skipEnds
      if ← takes "\x7d" then return []
      let simple := match ← peekKind with
        | some (.sign s) => s != "\x7b"
        | some (.keyword s) => !(["if", "while", "for"].contains s)
        | _ => true
      let s ← readStmt n
      -- A simple statement ends here.
      match simple, ← peekKind with
      | true, some (.sign t) => if t != ";" && t != "\x7d" then fault
      | true, some .newline => pure ()
      | true, some _ => fault
      | _, _ => pure ()
      return s :: (← readStmts n)

end

def readParameters : Nat → Read (List String)
  | 0 => fault
  | n + 1 => do
      skipNewlines
      match ← peekKind with
      | some (.name p) => do
          drop
          skipNewlines
          if ← takes "," then return p :: (← readParameters n) else return [p]
      | _ => return []

def readFunction (fuel : Nat) : Read Unit := do
  match ← peekKind with
  | some (.callee name) => readNamed name
  | some (.name name) => readNamed name
  | _ => fault
where
  readNamed (name : String) : Read Unit := do
    drop
    sign "("
    let parameters ← readParameters fuel
    closing
    skipNewlines
    modify fun s => { s with parameters := parameters, inFunction := true }
    let body ← readBlock fuel
    modify fun s =>
      { s with parameters := [], inFunction := false, functions := ⟨name, parameters, body⟩ :: s.functions }

/-- The action of a rule; without one the record is printed. -/
def readAction (fuel : Nat) : Read (List Stmt) := do
  if isSign (← peekKind) "\x7b" then
    modify fun s => { s with inRecord := true }
    let body ← readBlock fuel
    modify fun s => { s with inRecord := false }
    return body
  else
    match ← peekKind with
    | none => return [.print [] .output]
    | some .newline => return [.print [] .output]
    | some (.sign ";") => return [.print [] .output]
    | _ => fault

def readRule (fuel : Nat) : Read (Option Rule) := do
  match ← peekKind with
  | some (.keyword "function") => do
      drop
      readFunction fuel
      return none
  | some (.keyword "BEGIN") => do
      drop
      return some ⟨.begins, ← readBlock fuel⟩
  | some (.keyword "END") => do
      drop
      return some ⟨.finishes, ← readBlock fuel⟩
  | some (.sign "\x7b") => return some ⟨.always, ← readAction fuel⟩
  | _ => do
      let a ← readExpr fuel false
      if ← takes "," then
        skipNewlines
        let b ← readExpr fuel false
        let number := (← get).ranges
        modify fun s => { s with ranges := number + 1 }
        return some ⟨.range number a b, ← readAction fuel⟩
      else return some ⟨.expr a, ← readAction fuel⟩

def readRules (fuel : Nat) : Nat → Read (List Rule)
  | 0 => fault
  | n + 1 => do
      skipEnds
      if (← get).left.isEmpty then return []
      match ← readRule fuel with
      | some rule => return rule :: (← readRules fuel n)
      | none => readRules fuel n

def parse (cs : Octets) : Except Problem Script := do
  let ts ← tokens cs
  let fuel := 24 * ts.length + 64
  let lastLine := (cs.filter (· = '\n')).length + 2
  let (rules, s) ← (readRules fuel fuel).run { left := ts, lastLine := lastLine }
  match s.calls.reverse.find? fun name => !s.functions.any (·.name == name) with
  | some name => throw ⟨.undefined name, lastLine⟩
  | none => return ⟨rules, s.functions.reverse, s.names⟩

end LintBridge.Shell.Awk
