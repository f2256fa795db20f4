import LintBridge.Shell.Program.Numbers
import LintBridge.Shell.Test

namespace LintBridge.Shell.Program

open Exec

def isEchoOption : Octets → Bool
  | '-' :: c :: cs => (c :: cs).all fun d => d = 'n' || d = 'e' || d = 'E'
  | _ => false

def echo (_ : Octets) (args : List Octets) : Exec Nat := do
  let options := args.takeWhile isEchoOption
  let letters := options.flatMap (·.drop 1)
  let escapes := (letters.filter fun c => c = 'e' || c = 'E').getLast? = some 'e'
  let text := ([' '] : Octets).intercalate (args.drop options.length)
  let (text, goesOn) := if escapes then Format.unescape ⟨true, true, true⟩ text else (text, true)
  write 1 (if letters.contains 'n' || !goesOn then text else text ++ ['\n'])
  return 0

def complaintText : Format.Complaint → Octets
  | .missingLetter => "%: invalid conversion specification".toList
  | .invalid directive => directive ++ ": invalid conversion specification".toList
  | .number arg .incomplete => quotes arg ++ ": value not completely converted".toList
  | .number arg .range => quotes arg ++ ": Numerical result out of range".toList
  | .number arg _ => quotes arg ++ ": expected a numeric value".toList

def printf (who : Octets) (args : List Octets) : Exec Nat := do
  let args := match args with
    | ['-', '-'] :: rest => rest
    | args => args
  match args with
  | [] => misuse who 1 "missing operand".toList
  | format :: args => do
      let r := Format.render .program format args
      for c in r.complaints do complain who (complaintText c)
      write 1 r.out.flatten
      if r.complaints.any (·.isFatal) then return 1
      if r.goesOn && !r.takes && !args.isEmpty then
        complain who ("warning: ignoring excess arguments, starting with ".toList ++ quotes (args.headD []))
      return if r.complaints.isEmpty then 0 else 1

def yes (who : Octets) (args : List Octets) : Exec Nat :=
  withOptions who 1 "+" [] args fun o => do
    let line := (if o.operands.isEmpty then ['y'] else ([' '] : Octets).intercalate o.operands) ++ ['\n']
    let times := max 1 (8192 / line.length)
    let part := (List.replicate times line).flatten
    writeForever fun _ => part

def test (who : Octets) (args : List Octets) : Exec Nat := do
  let s ← get
  match Test.holds ⟨s.world.files, s.working⟩ args with
  | .ok b => return if b then 0 else 1
  | .error e => do
      complain who e.message.toList
      return 2

def bracket (who : Octets) (args : List Octets) : Exec Nat := do
  if args.getLast? == some [']'] then test who args.dropLast
  else do
    complain who "missing ']'".toList
    return 2

end LintBridge.Shell.Program
