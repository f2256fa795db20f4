import LintBridge.Text.Utf8
import LintBridge.Text.Visible

namespace LintBridge.Quoted

def escapeChar (c : Char) : List Char :=
  if c = '"' then ['\\', '"']
  else if c = '\\' then ['\\', '\\']
  else if c = '\n' then ['\\', 'n']
  else if c = '\r' then ['\\', 'r']
  else if c = '\t' then ['\\', 't']
  else if c.toNat = 0 then ['\\', '0']
  else if Text.isVisible c then [c]
  else ['\\', 'u', '\x7b'] ++ Nat.toDigits 16 c.toNat ++ ['\x7d']

def upperHex (b : UInt8) : List Char :=
  let digit (n : Nat) : Char := if n < 10 then Char.ofNat (48 + n) else Char.ofNat (55 + n)
  [digit (b.toNat / 16), digit (b.toNat % 16)]

def escapeChunk : Utf8.Chunk → List Char
  | .scalar c => escapeChar c
  | .invalid bs => bs.flatMap fun b => '\\' :: 'x' :: upperHex b

def quoteBytes (bs : Bytes) : String :=
  String.ofList (['"'] ++ (Utf8.chunks bs).flatMap escapeChunk ++ ['"'])

def quoteText (s : String) : String :=
  String.ofList (['"'] ++ s.toList.flatMap escapeChar ++ ['"'])

end LintBridge.Quoted
