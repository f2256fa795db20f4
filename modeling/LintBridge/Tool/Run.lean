import LintBridge.Config
import LintBridge.Shell.Process

namespace LintBridge.Tool

def attempt (c : Config) (files : Files) (path : Bytes) : Except Failure Trace :=
  match files.find [] path with
  | .error cause => .error (.input path cause)
  | .ok (_, node) =>
      if c.command.toList.contains '\x00' then .error (.spawn (.other "nul byte found in provided data"))
      else .ok (Shell.trace files node c.command)

def run (c : Config) (files : Files) (path : Bytes) : Output :=
  match attempt c files path with
  | .error f => .failed f
  | .ok t => t.output c.limit

def duration? (c : Config) (files : Files) (path : Bytes) : Option Duration :=
  match attempt c files path with
  | .error _ => some ⟨0⟩
  | .ok t =>
      match c.limit.filter t.outlasts with
      | some limit => some limit
      | none => t.ending.map fun _ => t.elapsed

end LintBridge.Tool
