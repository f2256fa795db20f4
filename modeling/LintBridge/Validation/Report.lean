import LintBridge.Diagnostic
import LintBridge.Settings
import LintBridge.Tool.Output

namespace LintBridge.Validation

structure Report where
  diagnostics : List Diagnostic
  /-- How many diagnostics the last limit cut off. -/
  truncated : Nat := 0
  complaint : Option String := none
  failure : Option Tool.Failure := none
  deriving DecidableEq, Repr

namespace Report

def ofOutput (o : Tool.Output) : Report :=
  { diagnostics := Diagnostic.ofReport o.stdout, complaint := o.complaint?, failure := o.failure }

def limit (max : Nat) (r : Report) : Report :=
  { r with diagnostics := r.diagnostics.take max, truncated := r.diagnostics.length - max }

def shouldPublish (s : Settings) (r : Report) : Bool := s.alwaysPublish || !r.diagnostics.isEmpty

end Report

inductive Outcome where
  | completed (report : Report)
  | superseded
  | closed
  | unsupported
  deriving DecidableEq, Repr

end LintBridge.Validation
