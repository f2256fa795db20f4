import LintBridge.Text.Blank
import LintBridge.Text.Decimal

namespace LintBridge

/-- One complaint of the lint tool. Lines are counted from zero. -/
structure Finding where
  rule : String
  line : Nat
  message : String
  deriving DecidableEq, Repr

namespace Report

inductive Skip where
  | tooFewFields
  | invalidLine
  | noMessage
  deriving DecidableEq, Repr

def maxLine : Nat := 4294967295

def lines (text : List Char) : List (List Char) := (Text.split '\n' text).dropLast

def stripReturn (line : List Char) : List Char :=
  if line.getLast? = some '\r' then line.dropLast else line

def isBlankLine (line : List Char) : Bool := (Text.trim line).isEmpty

/-- Line numbers are written from one; white space around them does not count. -/
def lineNumber? (field : List Char) : Option Nat :=
  match Decimal.read? maxLine (Text.trim field) with
  | some (n + 1) => some n
  | _ => none

def noMessageText : List Char := "undefined".toList

/-- Reads the fields of a line; text after a third colon is dropped. -/
def readFields : List (List Char) → Except Skip Finding
  | rule :: number :: message :: _ =>
      match lineNumber? number with
      | none => .error .invalidLine
      | some n =>
          if message = [] ∨ message = noMessageText then .error .noMessage
          else .ok ⟨String.ofList rule, n, String.ofList message⟩
  | _ => .error .tooFewFields

def readLine? (line : List Char) : Option Finding :=
  let line := stripReturn line
  if isBlankLine line then none else (readFields (Text.split ':' line)).toOption

def parse (text : String) : List Finding := (lines text.toList).filterMap readLine?

def skipped (text : String) : List (Skip × String) :=
  (lines text.toList).filterMap fun line =>
    let line := stripReturn line
    if isBlankLine line then none
    else match readFields (Text.split ':' line) with
      | .ok _ => none
      | .error why => some (why, String.ofList line)

def renderLine (f : Finding) : List Char :=
  f.rule.toList ++ ':' :: (Nat.toDigits 10 (f.line + 1) ++ ':' :: (f.message.toList ++ ['\r', '\n']))

def render (fs : List Finding) : String := String.ofList (fs.flatMap renderLine)

end Report

end LintBridge
