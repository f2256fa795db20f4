import LintBridge.Shell.Machine

namespace LintBridge.Shell.Program

inductive Launched where
  | ended (status : Nat) (signal : Option Nat)
  | missing
  | forbidden
  deriving DecidableEq, Repr

structure Caller where
  launch : List Octets → Exec Launched
  shell : Octets → Exec (Nat × Option Nat)

def Caller.outputOf (c : Caller) (command : Octets) : Exec (Octets × Nat × Option Nat) :=
  Exec.collect 1 fun fds => Exec.withFd 1 ((fds.lookup 1).getD 1) (c.shell command)

end LintBridge.Shell.Program
