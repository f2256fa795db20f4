namespace LintBridge

abbrev Bytes := List UInt8

namespace Utf8

inductive Chunk where
  | scalar (c : Char)
  | invalid (bytes : Bytes)
  deriving DecidableEq, Repr

/-- A sequence that has begun: the bytes read, the value so far, the number of bytes still owed
and the range of the next one. -/
structure Partial where
  bytes : Bytes
  value : Nat
  owed : Nat
  low : UInt8 := 0x80
  high : UInt8 := 0xBF

inductive Lead where
  | whole (c : Char)
  | opens (p : Partial)
  | none

def lead (b : UInt8) : Lead :=
  let n := b.toNat
  if n < 0x80 then .whole (Char.ofNat n)
  else if n < 0xC2 then .none
  else if n < 0xE0 then .opens { bytes := [b], value := n - 0xC0, owed := 1 }
  else if n = 0xE0 then .opens { bytes := [b], value := 0, owed := 2, low := 0xA0 }
  else if n = 0xED then .opens { bytes := [b], value := 13, owed := 2, high := 0x9F }
  else if n < 0xF0 then .opens { bytes := [b], value := n - 0xE0, owed := 2 }
  else if n = 0xF0 then .opens { bytes := [b], value := 0, owed := 3, low := 0x90 }
  else if n < 0xF4 then .opens { bytes := [b], value := n - 0xF0, owed := 3 }
  else if n = 0xF4 then .opens { bytes := [b], value := 4, owed := 3, high := 0x8F }
  else .none

def Partial.extend (p : Partial) (b : UInt8) : Partial :=
  { bytes := p.bytes ++ [b], value := p.value * 64 + (b.toNat - 0x80), owed := p.owed - 1 }

def begin (b : UInt8) : List Chunk × Option Partial :=
  match lead b with
  | .whole c => ([.scalar c], none)
  | .opens p => ([], some p)
  | .none => ([.invalid [b]], none)

def feed : Option Partial → UInt8 → List Chunk × Option Partial
  | none, b => begin b
  | some p, b =>
      if p.low ≤ b ∧ b ≤ p.high then
        let q := p.extend b
        if q.owed = 0 then ([.scalar (Char.ofNat q.value)], none) else ([], some q)
      else
        let (out, rest) := begin b
        (.invalid p.bytes :: out, rest)

def chunksFrom : Option Partial → Bytes → List Chunk
  | none, [] => []
  | some p, [] => [.invalid p.bytes]
  | st, b :: bs => (feed st b).1 ++ chunksFrom (feed st b).2 bs

def chunks (bs : Bytes) : List Chunk := chunksFrom none bs

def replacement : Char := Char.ofNat 0xFFFD

/-- Decodes every byte string; each maximal invalid subpart becomes U+FFFD. -/
def lossy (bs : Bytes) : List Char :=
  (chunks bs).map fun
    | .scalar c => c
    | .invalid _ => replacement

def decode? (bs : Bytes) : Option (List Char) :=
  (chunks bs).mapM fun
    | .scalar c => some c
    | .invalid _ => none

def encodeChar (c : Char) : Bytes :=
  let n := c.toNat
  if n < 0x80 then [n.toUInt8]
  else if n < 0x800 then [(0xC0 + n / 64).toUInt8, (0x80 + n % 64).toUInt8]
  else if n < 0x10000 then
    [(0xE0 + n / 4096).toUInt8, (0x80 + n / 64 % 64).toUInt8, (0x80 + n % 64).toUInt8]
  else
    [(0xF0 + n / 262144).toUInt8, (0x80 + n / 4096 % 64).toUInt8, (0x80 + n / 64 % 64).toUInt8,
      (0x80 + n % 64).toUInt8]

def encode (cs : List Char) : Bytes := cs.flatMap encodeChar

end Utf8

def bytesOf (s : String) : Bytes := Utf8.encode s.toList

def textOf (bs : Bytes) : String := String.ofList (Utf8.lossy bs)

end LintBridge
