import LintBridge.Shell.Program.Options

namespace LintBridge.Shell.Program

open Exec
open Tool (SystemError)

def openOperand (path : Octets) : Exec (Except SystemError Nat) := do
  if path == ['-'] then
    match (← get).fds.lookup 0 with
    | some id => return .ok id
    | none => return .error (.code 9)
  else openRead path

def readOperand (path : Octets) : Exec (Except SystemError Octets) := do
  match ← openOperand path with
  | .error e => return .error e
  | .ok id => withFd 0 id (readAll 0)

def sources (operands : List Octets) : List Octets := if operands.isEmpty then [['-']] else operands

abbrev Blame := Octets → SystemError → Octets

def blamePath : Blame := fun path e => path ++ ": ".toList ++ e.plainText.toList

def blameOpen : Blame := fun path e =>
  if e = .code 21 then "error reading ".toList ++ quotes path ++ ": ".toList ++ e.plainText.toList
  else "cannot open ".toList ++ quotes path ++ " for reading: ".toList ++ e.plainText.toList

def readOperands (who : Octets) (blame : Blame) : List Octets → Exec (List (Octets × Octets) × Bool)
  | [] => return ([], true)
  | path :: paths => do
      match ← readOperand path with
      | .ok text => do
          let (rest, good) ← readOperands who blame paths
          return ((path, text) :: rest, good)
      | .error e => do
          complain who (blame path e)
          let (rest, _) ← readOperands who blame paths
          return (rest, false)

structure Gathered where
  text : Octets
  good : Bool
  more : Option Stop

def wholeLines (text : Octets) : Octets := (text.reverse.dropWhile (· ≠ '\n')).reverse

def gather (who : Octets) (blame : Blame) : List Octets → Exec Gathered
  | [] => return ⟨[], true, none⟩
  | path :: paths => do
      let opened ← openOperand path
      let result ← (match opened with
        | .error e => return Except.error e
        | .ok id => withFd 0 id do
            match ← readReady 0 with
            | .error e => return Except.error e
            | .ok (text, true) => return Except.ok (text, none)
            | .ok (text, false) => do
                match ← attempt (starve 0 : Exec Unit) with
                | .error stop => return Except.ok (text, some stop)
                | .ok _ => return Except.ok (text, none))
      match result with
      | .ok (text, none) => do
          let rest ← gather who blame paths
          return { rest with text := text ++ rest.text }
      | .ok (text, some stop) => return ⟨text, true, some stop⟩
      | .error e => do
          complain who (blame path e)
          let rest ← gather who blame paths
          return { rest with good := false }

/-- Writes parts without end, until there is no room for more. Where nobody reads them this never ends. -/
def writeForever (part : Nat → Octets) : Exec Nat := do
  match ← streamOf 1 with
  | some (_, .sink _ _) => go part 20000 0
  | some (_, .full) => do
      write 1 (part 0)
      return 1
  | some _ => throw .endless
  | none => do
      write 1 (part 0)
      return 1
where
  go (part : Nat → Octets) : Nat → Nat → Exec Nat
    | 0, _ => throw .endless
    | n + 1, i => do
        write 1 (part i)
        go part n (i + 1)

def filterLines (who : Octets) (operands : List Octets) (f : Octets → Octets) : Exec Nat := do
  let g ← gather who blamePath (sources operands)
  match g.more with
  | none => do
      write 1 (f g.text)
      return if g.good then 0 else 1
  | some stop => do
      write 1 (f (wholeLines g.text))
      throw stop

/-- A filter that makes its output byte by byte. What has no end is written until nobody reads it. -/
def filterBytes (who : Octets) (operands : List Octets) (f : Octets → Octets) : Exec Nat := do
  let g ← gather who blamePath (sources operands)
  match g.more with
  | none => do
      write 1 (f g.text)
      return if g.good then 0 else 1
  | some .endless => writeForever fun _ => f g.text
  | some stop => do
      write 1 (f g.text)
      throw stop

def joinLines (ls : List (Octets × Bool)) : Octets :=
  ls.flatMap fun (line, ended) => line ++ (if ended then ['\n'] else [])

def size? (cs : Octets) : Option Nat :=
  let ds := cs.takeWhile Char.isDigit
  (Octets.nat? ds).bind fun n =>
    let powers := ['K', 'M', 'G', 'T', 'P', 'E', 'Z', 'Y']
    match cs.drop ds.length with
    | [] => some n
    | ['b'] => some (n * 512)
    | ['k'] => some (n * 1024)
    | ['k', 'B'] => some (n * 1000)
    | [c] => (powers.findIdx? (· = c)).map fun i => n * Nat.pow 1024 (i + 1)
    | [c, 'B'] => (powers.findIdx? (· = c)).map fun i => n * Nat.pow 1000 (i + 1)
    | [c, 'i', 'B'] => (powers.findIdx? (· = c)).map fun i => n * Nat.pow 1024 (i + 1)
    | _ => none

end LintBridge.Shell.Program
