import LintBridge.Log.Entry
import LintBridge.Log.Pattern
import LintBridge.Text.Alphanumeric
import LintBridge.Text.Decimal
import LintBridge.Text.Utf8

namespace LintBridge.Log

structure Limit where
  rank : Nat
  deriving DecidableEq, Repr

namespace Limit

def ofLevel (l : Level) : Limit := ⟨l.rank⟩

def all : Limit := ofLevel .trace

def named : List (String × Limit) := [("off", ⟨0⟩), ("error", ofLevel .error), ("warn", ofLevel .warn),
  ("info", ofLevel .info), ("debug", ofLevel .debug), ("trace", ofLevel .trace)]

def read? (cs : List Char) : Option Limit :=
  match Decimal.read? 5 cs with
  | some n => some ⟨n⟩
  | none => named.lookup (String.ofList (cs.map Char.toLower))

end Limit

structure FieldTest where
  name : List Char
  valued : Bool
  deriving DecidableEq, Repr

structure Rule where
  target : Option (List Char) := none
  /-- A span within which a line has to be. No line of the server is within one. -/
  span : Option (List Char) := none
  field : Option FieldTest := none
  limit : Limit := .all
  deriving DecidableEq, Repr

inductive Rule.Fault where
  | malformed
  | torn
  deriving DecidableEq, Repr

namespace Rule

def begins (c : Char) : Bool := c = '-' || c = ':' || c = '_' || Text.isAlphanumeric c

def width (cs : List Char) : Nat := (Utf8.encode cs).length

def cut (raw : Bytes) (start stop : Nat) : Except Fault (List Char) :=
  match Utf8.decode? ((raw.take stop).drop start) with
  | some cs => .ok cs
  | none => .error .torn

def endLimit (raw : Bytes) (start : Nat) : Except Fault Limit := do
  let cs ← cut raw start raw.length
  if cs.isEmpty then return .all
  else match Limit.read? cs with
    | some l => return l
    | none => .error .malformed

def readEnd (raw : Bytes) (place : Nat) (r : Rule) : List Char → Except Fault Rule
  | [] => .ok r
  | '=' :: _ => do return { r with limit := ← endLimit raw (place + 1) }
  | _ => .error .malformed

def readField (text : List Char) : Except Fault FieldTest :=
  match Text.split '=' text with
  | [] => .error .malformed
  | [name] => if name.isEmpty then .error .malformed else .ok ⟨name, false⟩
  | name :: value :: _ => if Pattern.isFair value then .ok ⟨name, true⟩ else .error .malformed

def readFields (raw : Bytes) (place : Nat) (r : Rule) (cs : List Char) : Except Fault Rule := do
  let text := cs.takeWhile (· ≠ '\x7d')
  match cs.drop text.length with
  | [] => .error .malformed
  | _ :: cs =>
      let field ← readField (← cut raw place (place + width text))
      match cs with
      | ']' :: cs => readEnd raw (place + width text + 2) { r with field := some field } cs
      | _ => .error .malformed

def readSpan (raw : Bytes) (place : Nat) (r : Rule) (cs : List Char) : Except Fault Rule := do
  let name := cs.takeWhile fun c => c ≠ ']' && c ≠ '\x7b'
  let after := place + width name
  match cs.drop name.length with
  | ']' :: cs => readEnd raw (after + 1) { r with span := some (← cut raw place after) } cs
  | '\x7b' :: cs =>
      let span ← cut raw place after
      readFields raw (after + 1) { r with span := if span.isEmpty then none else some span } cs
  | _ => .error .malformed

def ofWord (cs : List Char) : Rule :=
  match Limit.read? cs with
  | some l => { limit := l }
  | none => { target := some cs }

/-- Reads a rule. Its signs are found in the text without the blanks around it, but its parts are then cut out
of the whole text, so that blanks in front shift them. -/
def read (raw : List Char) : Except Fault Rule :=
  let whole := Utf8.encode raw
  match Text.trim raw with
  | [] => .error .malformed
  | '[' :: cs => readSpan whole 1 {} cs
  | c :: cs => do
      let word := (c :: cs).takeWhile fun c => c ≠ '=' && c ≠ '['
      if !begins c then .error .malformed
      else match (c :: cs).drop word.length with
        | '=' :: _ => return { target := some (← cut whole 0 (width word)), limit := ← endLimit whole (width word + 1) }
        | '[' :: cs => readSpan whole (width word + 1) { target := some (← cut whole 0 (width word)) } cs
        | _ => return ofWord raw

/-- Whether a rule is about a line. One that asks for a span or a value never is. -/
def concerns (r : Rule) (e : Entry) : Bool :=
  r.span.isNone && r.field.all (fun f => !f.valued && e.fields.contains (String.ofList f.name)) &&
    r.target.all (·.isPrefixOf e.area.target.toList)

def isAsClose (r s : Rule) : Bool :=
  let size (r : Rule) : Nat := (r.target.map fun t => width t + 1).getD 0
  let name (r : Rule) : String := (r.field.map fun f => String.ofList f.name).getD ""
  if size r ≠ size s then size s < size r
  else if r.field.isSome ≠ s.field.isSome then r.field.isSome
  else !(name r < name s)

end Rule

structure Filter where
  rules : List Rule
  deriving DecidableEq, Repr

namespace Filter

def standard : Filter := ⟨[{ limit := .ofLevel .info }]⟩

/-- Reads a filter; an empty one lets only errors through. -/
def parse (text : String) : Except Rule.Fault Filter := do
  let parts := (text.splitOn ",").filter (!·.isEmpty)
  let rules ← parts.mapM fun p => Rule.read p.toList
  return ⟨if rules.isEmpty then [{ limit := .ofLevel .error }] else rules⟩

def ofSetting? : Option String → Option Filter
  | none => some standard
  | some text =>
      match parse text with
      | .ok f => some f
      | .error .malformed => some standard
      | .error .torn => none

/-- Of the rules that are about a line the closest one decides: the one with the longest target, then one that names
a field, then the one whose field comes last in order; of equal ones the last. -/
def ruleFor? (f : Filter) (e : Entry) : Option Rule :=
  (f.rules.filter (·.concerns e)).foldl (fun best r =>
    match best with
    | some b => if r.isAsClose b then some r else best
    | none => some r) none

def allows (f : Filter) (e : Entry) : Bool := (f.ruleFor? e).any fun r => e.level.rank ≤ r.limit.rank

end Filter

end LintBridge.Log
