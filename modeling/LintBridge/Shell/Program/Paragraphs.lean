import LintBridge.Shell.Program.Input

namespace LintBridge.Shell.Program

open Exec

namespace Filling

structure Style where
  lead : Octets := []
  leadBlanks : Nat := 0
  leadLength : Nat := 0
  width : Nat := 75
  goal : Nat := 70
  crown : Bool := false
  tagged : Bool := false
  split : Bool := false
  uniform : Bool := false

structure Word where
  text : Octets
  space : Nat
  opens : Bool
  marked : Bool
  period : Bool
  final : Bool

def square (n : Int) : Int := n * n

def shortCost (n : Int) : Int := square (10 * n)
def raggedCost (n : Int) : Int := shortCost n / 2

/-- The best way on from a word: how many words its line has, how long that is, the cost of this line and all after it,
and whether no other line comes after it. -/
structure Plan where
  count : Nat
  length : Nat
  cost : Int
  isLast : Bool

/-- What it costs to begin a line at a word, by the words before it, the nearest first. -/
def baseCost (w : Word) (before : List Word) : Int :=
  let break_ := match before with
    | [] => 0
    | b :: before =>
        if b.period then if b.final then -square 50 else square 600
        else if b.marked then -square 40
        else if (before.head?.map (·.final)).getD false then square 200 / (b.text.length + 2)
        else 0
  square 70 + break_ + (if w.opens then -square 40 else if w.final then square 150 / (w.text.length + 2) else 0)

structure Line where
  count : Nat
  length : Nat
  space : Nat

def bestPlan (s : Style) (extra : Nat → Int) (l : Line) (best : Option Plan) : List (Word × Plan) → Option Plan
  | [] =>
      let cost := extra l.length
      if best.all (cost < ·.cost) then some ⟨l.count, l.length, cost, true⟩ else best
  | (w, p) :: after =>
      let ragged := if p.isLast then 0 else raggedCost (l.length - p.length)
      let cost := shortCost (s.goal - l.length) + ragged + p.cost + extra l.length
      let best := if best.all (cost < ·.cost) then some ⟨l.count, l.length, cost, false⟩ else best
      let longer := l.length + l.space + w.text.length
      if longer < s.width then bestPlan s extra ⟨l.count + 1, longer, w.space⟩ best after else best

def planFrom (s : Style) (first other previous : Nat) : List Word → List (Word × Plan) → List (Word × Plan)
  | [], after => after
  | w :: before, after =>
      let indent := if before.isEmpty then first else other
      let extra := fun length : Nat => if before.isEmpty && 0 < previous then raggedCost (length - previous) else 0
      let start : Line := ⟨1, indent + w.text.length, w.space⟩
      let plan := (bestPlan s extra start none after).getD ⟨1, start.length, 0, after.isEmpty⟩
      planFrom s first other previous before ((w, { plan with cost := plan.cost + baseCost w before }) :: after)

def planned : Nat → List (Word × Plan) → List (List (Word × Plan))
  | 0, _ => []
  | _, [] => []
  | n + 1, (w, p) :: after => ((w, p) :: after.take (p.count - 1)) :: planned n (after.drop (p.count - 1))

/-- What is known while a text is filled. What was written comes last part first. -/
structure State where
  words : Array Word := #[]
  size : Nat := 0
  first : Nat := 0
  other : Nat := 0
  indent : Nat := 0
  previous : Nat := 0
  tabs : Bool := false
  out : List Octets := []

def maxWords : Nat := 998
def maxSize : Nat := 5000

def State.put (t : State) (text : Octets) : State := { t with out := text :: t.out }

def blanks (tabs : Bool) (column count : Nat) : Octets :=
  let goal := column + count
  let stop := goal / 8 * 8
  if tabs && column + 1 < stop then List.replicate (stop / 8 - column / 8) '\t' ++ List.replicate (goal - stop) ' '
  else List.replicate count ' '

def lineText (tabs : Bool) : Nat → List Octets → List Word → List Octets × Nat
  | column, done, [] => (done.reverse, column)
  | column, done, [w] => ((w.text :: done).reverse, column + w.text.length)
  | column, done, w :: ws =>
      let column := column + w.text.length
      lineText tabs (column + w.space) (blanks tabs column w.space :: w.text :: done) ws

def State.putLine (t : State) (s : Style) (indent : Nat) (line : List (Word × Plan)) : State :=
  let column := t.indent + s.lead.length
  let (parts, last) := lineText t.tabs (max column indent) [] (line.map (·.1))
  { t with
    out := (blanks t.tabs 0 t.indent ++ s.lead ++ blanks t.tabs column (indent - column) ++ parts.flatten ++ ['\n']) :: t.out
    previous := last }

def State.putLines (t : State) (s : Style) : List (List (Word × Plan)) → State
  | [] => t
  | line :: lines => lines.foldl (·.putLine s t.other ·) (t.putLine s t.first line)

def State.plans (t : State) (s : Style) : List (List (Word × Plan)) :=
  let words := t.words.toList
  planned words.length (planFrom s t.first t.other t.previous words.reverse [])

/-- How many lines to write of a paragraph that is too long to be filled at once, by the costs of those after the first. -/
def splitPoint : Option Int → Nat → List Int → Option Nat → Option Nat
  | _, _, [], found => found
  | best, i, cost :: costs, found =>
      let alone := cost - costs.headD 0
      if best.all (alone < ·) then splitPoint (some (alone + 9)) (i + 1) costs (some i)
      else splitPoint (best.map (· + 9)) (i + 1) costs found

def State.flush (t : State) (s : Style) : State :=
  let lines := t.plans s
  let costs := lines.tail.map fun line => (line.head?.map (·.2.cost)).getD 0
  let count := (splitPoint none 1 costs none).getD lines.length
  let left := ((lines.drop count).flatten.map (·.1)).toArray
  let t := t.putLines s (lines.take count)
  { t with words := left, size := left.foldl (fun n w => n + w.text.length) 0 }

/-- The indent of the lines after the first where there is none to see: the last one, but not that of the first line. -/
def State.retag (t : State) : State :=
  if t.other = t.first then { t with other := if t.first = 0 then 3 else 0 } else t

/-- The indent of the lines after the first, by the column at which the next one begins if it belongs to the paragraph. -/
def State.setOther (t : State) (s : Style) (column : Option Nat) : State :=
  if s.split then { t with other := t.first }
  else if s.crown then { t with other := column.getD t.first }
  else if s.tagged then
    match column with
    | some column => if column ≠ t.first then { t with other := column } else t.retag
    | none => t.retag
  else { t with other := t.first }

/-- Makes room for a word; what cannot be filled is written as it is. Returns what is left of the word. -/
def State.makeRoom (s : Style) (column : Nat) : Nat → State → Octets → State × Octets
  | 0, t, text => (t, text)
  | n + 1, t, text =>
      if t.size + text.length ≤ maxSize then (t, text)
      else
        let t := t.setOther s (some column)
        if t.words.isEmpty then State.makeRoom s column n (t.put (text.take maxSize)) (text.drop maxSize)
        else State.makeRoom s column n (t.flush s) text

def isOpening (c : Char) : Bool := "([\x60\x27\"".toList.contains c
def isClosing (c : Char) : Bool := ")]\x27\"".toList.contains c
def isMark (c : Char) : Bool := '!' ≤ c && c ≤ '~' && !c.isAlphanum
def isSpace (c : Char) : Bool := c = ' ' || ('\t' ≤ c && c ≤ '\r')

def endsSentence : Octets → Bool
  | [] => false
  | [c] => ".?!".toList.contains c
  | c :: cs => if isClosing c then endsSentence cs else ".?!".toList.contains c

def skipBlanks : Nat → Bool → Octets → Nat × Bool × Octets
  | column, tabs, ' ' :: cs => skipBlanks (column + 1) tabs cs
  | column, _, '\t' :: cs => skipBlanks ((column / 8 + 1) * 8) true cs
  | column, tabs, cs => (column, tabs, cs)

def State.addWords (s : Style) (isEnd : Bool) : Nat → State → Nat → Octets → State
  | 0, t, _, _ => t
  | _, t, _, [] => t
  | n + 1, t, column, c :: cs =>
      let text := c :: cs.takeWhile (!isSpace ·)
      let rest := cs.drop (text.length - 1)
      let (t, text) := State.makeRoom s column (text.length + t.words.size + 1) t text
      let column := column + text.length
      let (next, tabs, rest) := skipBlanks column t.tabs rest
      let last := text.reverse
      let period := endsSentence last
      let ends := rest.isEmpty
      let final := (ends && isEnd) || (period && (ends || next - column > 1))
      let w : Word := ⟨text, if ends || s.uniform then (if final then 2 else 1) else next - column,
        (text.head?.map isOpening).getD false, (last.head?.map isMark).getD false, period, final⟩
      let t := { t with tabs := tabs }
      let t := if t.words.size = maxWords then (t.setOther s (some next)).flush s else t
      State.addWords s isEnd n { t with words := t.words.push w, size := t.size + text.length } next rest

/-- The beginning of a line: the indent of what stands before it, the column of its first word, and what follows. -/
structure Head where
  indent : Nat
  column : Nat
  rest : Octets
  isEnd : Bool

def matchLead : Octets → Nat → Octets → Nat × Octets × Bool
  | [], column, cs => (column, cs, true)
  | p :: ps, column, c :: cs => if p = c then matchLead ps (column + 1) cs else (column, c :: cs, false)
  | _ :: _, column, [] => (column, [], false)

def State.look (t : State) (s : Style) : List (Octets × Bool) → State × Head
  | [] => (t, ⟨0, 0, [], true⟩)
  | (line, ended) :: _ =>
      let (column, tabs, rest) := skipBlanks 0 t.tabs line
      if s.lead.isEmpty then ({ t with tabs := tabs }, ⟨min s.leadBlanks column, column, rest, !ended⟩)
      else
        let (after, rest, whole) := matchLead s.lead column rest
        let (after, tabs, rest) := if whole then skipBlanks after tabs rest else (after, tabs, rest)
        ({ t with tabs := tabs }, ⟨column, after, rest, !ended⟩)

def Head.isFilled (h : Head) (s : Style) : Bool :=
  !h.rest.isEmpty && s.leadBlanks ≤ h.indent && h.indent + s.leadLength ≤ h.column

def State.copy (t : State) (s : Style) (h : Head) : State :=
  if h.column ≤ h.indent && h.rest.isEmpty then t
  else
    let lead := s.lead.take (h.column - h.indent)
    let column := h.indent + lead.length
    t.put (blanks t.tabs 0 h.indent ++ lead ++
      (if h.rest.isEmpty then if h.isEnd && h.indent + s.lead.length ≤ h.column then ['\n'] else []
        else blanks t.tabs column (h.column - column) ++ h.rest))

def State.addLines (s : Style) (belongs : Head → Bool) : State → Head → List (Octets × Bool) → State × Head × List (Octets × Bool)
  | t, h, [] => (t, h, [])
  | t, h, line :: lines =>
      if belongs h then
        let t := State.addWords s h.isEnd (h.rest.length + 1) t h.column h.rest
        let (t, next) := t.look s lines
        State.addLines s belongs t next lines
      else (t, h, line :: lines)

def State.run (s : Style) : Nat → State → Head → List (Octets × Bool) → State
  | 0, t, _, _ => t
  | n + 1, t, h, lines =>
      if !h.isFilled s then
        let t := t.copy s h
        match lines with
        | [] => t
        | (_, ended) :: lines =>
            if !ended then t
            else
              let (t, h) := (t.put ['\n']).look s lines
              State.run s n t h lines
      else
        let t := State.addWords s h.isEnd (h.rest.length + 1)
          { t with words := #[], size := 0, indent := h.indent, first := h.column, previous := 0 } h.column h.rest
        let lines := lines.tail
        let (t, next) := t.look s lines
        let same := fun (k : Head) => k.indent = h.indent && k.indent + s.leadLength ≤ k.column && !k.rest.isEmpty
        let t := t.setOther s (if same next then some next.column else none)
        let more := !s.split && (!s.tagged || s.crown || next.column ≠ t.first)
        let other := t.other
        let (t, next, lines) := if more then State.addLines s (fun k => same k && k.column = other) t next lines
          else (t, next, lines)
        let t := { t with words := t.words.modify (t.words.size - 1) fun w => { w with period := true, final := true } }
        State.run s n (t.putLines s (t.plans s)) next lines

end Filling

def fillText (s : Filling.Style) (text : Octets) : Octets :=
  let lines := Octets.lines text
  let (t, h) := Filling.State.look {} s lines
  (Filling.State.run s (lines.length + 2) t h lines).out.reverse.flatten

def fillWidth (most : Nat) (text : Octets) : Except Octets Nat :=
  let fault := "invalid width: ".toList ++ quotes text
  match Octets.nat? text with
  | none => .error fault
  | some n =>
      if n ≤ most then .ok n
      else .error (fault ++ (if n ≤ 1073741823 then ": Numerical result out of range".toList
        else ": Value too large for defined data type".toList))

def fillStyle (o : Options) : Except Octets Filling.Style := do
  let width ← (o.value? "w").mapM (fillWidth 2500)
  let goal ← (o.value? "g").mapM (fillWidth (width.getD 75))
  let most := width.getD ((goal.map (· + 10)).getD 75)
  let lead := (o.value? "p").getD []
  let inner := lead.dropWhile (· = ' ')
  return {
    lead := (inner.reverse.dropWhile (· = ' ')).reverse
    leadBlanks := lead.length - inner.length
    leadLength := inner.length
    width := most
    goal := goal.getD (most * 187 / 200)
    crown := o.has "c"
    tagged := o.has "t"
    split := o.has "s"
    uniform := o.has "u" }

def fmt (who : Octets) (args : List Octets) : Exec Nat := do
  let args := match args with
    | ('-' :: c :: cs) :: args => if c.isDigit then ('-' :: 'w' :: c :: cs) :: args else ('-' :: c :: cs) :: args
    | args => args
  withOptions who 1 "ctsuw:p:g:" [("crown-margin", "c"), ("prefix=", "p"), ("split-only", "s"), ("tagged-paragraph", "t"),
    ("uniform-spacing", "u"), ("width=", "w"), ("goal=", "g")] args fun o => do
    match fillStyle o with
    | .error fault => do
        complain who fault
        return 1
    | .ok s => do
        let (texts, good) ← readOperands who blameOpen (sources o.operands)
        for (_, text) in texts do write 1 (fillText s text)
        return if good then 0 else 1

end LintBridge.Shell.Program
