import LintBridge.Shell.Octets

namespace LintBridge.Shell.Signal

def names : List String := ["HUP", "INT", "QUIT", "ILL", "TRAP", "ABRT", "BUS", "FPE", "KILL", "USR1", "SEGV", "USR2",
  "PIPE", "ALRM", "TERM", "STKFLT", "CHLD", "CONT", "STOP", "TSTP", "TTIN", "TTOU", "URG", "XCPU", "XFSZ", "VTALRM",
  "PROF", "WINCH", "IO", "PWR", "SYS"]

def name? (n : Nat) : Option Octets :=
  if n = 0 then some "EXIT".toList
  else if n ≤ 31 then (names[n - 1]?).map String.toList
  else if n < 34 then some (Octets.ofNat n)
  else if n = 34 then some "RTMIN".toList
  else if n ≤ 49 then some ("RTMIN+".toList ++ Octets.ofNat (n - 34))
  else if n < 64 then some ("RTMAX-".toList ++ Octets.ofNat (64 - n))
  else if n = 64 then some "RTMAX".toList
  else none

def number? (cs : Octets) : Option Nat :=
  match Octets.nat? cs with
  | some n => if n ≤ 64 then some n else none
  | none =>
      let upper := cs.map Char.toUpper
      (List.range 65).find? fun n => name? n == some upper

inductive Action where
  | ends
  | ignored
  | stops
  deriving DecidableEq, Repr

def action (n : Nat) : Action :=
  if n = 0 || n = 17 || n = 18 || n = 23 || n = 28 then .ignored
  else if 19 ≤ n && n ≤ 22 then .stops
  else .ends

/-- What a shell says about a child that a signal ended; nothing about some. -/
def obituary? (n : Nat) : Option String :=
  match n with
  | 1 => some "Hangup"
  | 2 => none
  | 3 => some "Quit"
  | 4 => some "Illegal instruction"
  | 5 => some "Trace/breakpoint trap"
  | 6 => some "Aborted"
  | 7 => some "Bus error"
  | 8 => some "Floating point exception"
  | 9 => some "Killed"
  | 10 => some "User defined signal 1"
  | 11 => some "Segmentation fault"
  | 12 => some "User defined signal 2"
  | 13 => none
  | 14 => some "Alarm clock"
  | 15 => some "Terminated"
  | n => some ("Signal " ++ toString n)

def description (n : Nat) : String :=
  match n with
  | 2 => "Interrupt"
  | 13 => "Broken pipe"
  | n => (obituary? n).getD ""

def isHandled (n : Nat) : Bool := n ≠ 9 && n ≠ 19

end LintBridge.Shell.Signal
