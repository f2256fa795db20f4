import LintBridge.Text.Blank
import LintBridge.Tool.Failure

namespace LintBridge.Tool

structure Output where
  stdout : String := ""
  stderr : String := ""
  failure : Option Failure := none
  deriving DecidableEq, Repr

namespace Output

def failed (f : Failure) : Output := { failure := some f }

def complaint? (o : Output) : Option String :=
  match Text.trim o.stderr.toList with
  | [] => none
  | cs => some (String.ofList cs)

end Output

inductive Ending where
  | exited (status : Nat)
  | signalled
  deriving DecidableEq, Repr

/-- All that is seen of a process: what it wrote, how it ended and after how long. A process that
never ends has no ending. -/
structure Trace where
  stdout : Bytes := []
  stderr : Bytes := []
  ending : Option Ending := some (.exited 0)
  elapsed : Duration := ⟨0⟩
  deriving DecidableEq, Repr

namespace Trace

/-- Whether a process is still running when a limit has passed. Every process takes some time
beyond what it waits for, so one that waits exactly as long as the limit outlasts it. -/
def outlasts (t : Trace) (limit : Duration) : Bool :=
  t.ending.isNone || limit.nanos ≤ t.elapsed.nanos

def failure? : Ending → Option Failure
  | .exited 0 => none
  | .exited n => some (.exit n)
  | .signalled => some .terminated

/-- The output of a run. One that is cut off at its limit gives nothing but the failure. -/
def output (t : Trace) (limit : Option Duration) : Output :=
  match limit.filter t.outlasts with
  | some l => .failed (.timeout l)
  | none =>
      { stdout := textOf t.stdout, stderr := textOf t.stderr, failure := t.ending.bind failure? }

end Trace

end LintBridge.Tool
