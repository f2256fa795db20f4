import LintBridge.Text.Utf8

namespace LintBridge.Uri

def isUnsafeAnywhere (c : Char) : Bool := c.toNat < 0x20 || 0x7E < c.toNat

def escapedInFragment (c : Char) : Bool :=
  isUnsafeAnywhere c || c == ' ' || c == '"' || c == '<' || c == '>' || c == '\x60'

def escapedInPath (c : Char) : Bool :=
  escapedInFragment c || c == '#' || c == '?' || c == '\x7b' || c == '\x7d'

def escapedInUserinfo (c : Char) : Bool :=
  escapedInPath c || c == '/' || c == ':' || c == ';' || c == '=' || c == '@' || c == '[' ||
    c == '\\' || c == ']' || c == '^' || c == '|'

def escapedInQuery (c : Char) : Bool :=
  isUnsafeAnywhere c || c == ' ' || c == '"' || c == '#' || c == '<' || c == '>'

def escapedInSpecialQuery (c : Char) : Bool := escapedInQuery c || c == '\x27'

def hexChar (n : Nat) : Char := if n < 10 then Char.ofNat (48 + n) else Char.ofNat (55 + n)

def escapeByte (b : UInt8) : List Char := ['%', hexChar (b.toNat / 16), hexChar (b.toNat % 16)]

def escapeChar (escaped : Char → Bool) (c : Char) : List Char :=
  if escaped c then (Utf8.encodeChar c).flatMap escapeByte else [c]

def escape (escaped : Char → Bool) (cs : List Char) : List Char := cs.flatMap (escapeChar escaped)

def hexValue? (b : UInt8) : Option UInt8 :=
  if 0x30 ≤ b ∧ b ≤ 0x39 then some (b - 0x30)
  else if 0x41 ≤ b ∧ b ≤ 0x46 then some (b - 0x37)
  else if 0x61 ≤ b ∧ b ≤ 0x66 then some (b - 0x57)
  else none

def escaped? (a b c : UInt8) : Option UInt8 :=
  if a = 0x25 then do return (← hexValue? b) * 16 + (← hexValue? c) else none

def unescape : Bytes → Bytes
  | a :: b :: c :: rest =>
      match escaped? a b c with
      | some x => x :: unescape rest
      | none => a :: unescape (b :: c :: rest)
  | bs => bs

end LintBridge.Uri
