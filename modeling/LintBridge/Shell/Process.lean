import LintBridge.Shell.Run
import LintBridge.Tool.Output

namespace LintBridge.Shell

open Exec (streamOfNode)

/-- How deep a script may be nested and how many turns a loop may take before it counts as endless. -/
def patience : Nat := 20000000

def environment : List (Octets × Octets) := [
  ("HOME".toList, "/root".toList), ("PATH".toList, "/usr/local/bin:/usr/bin:/bin".toList)]

def initial (files : Files) (input : Node) : State where
  world := {
    files := files
    streams := [(0, streamOfNode input), (1, .sink [] Exec.largestOutput), (2, .sink [] Exec.largestOutput)] }
  vars := environment
  exported := environment.map (·.1)

def written (w : World) (id : Nat) : Bytes :=
  match w.streams.lookup id with
  | some (.sink chunks _) => Octets.toBytes (Chunk.textOf chunks)
  | _ => []

def trace (files : Files) (input : Node) (command : String) : Tool.Trace :=
  let (result, after) := (ExceptT.run (runShell patience (Octets.ofString command) ['s', 'h'] [] [])).run
    (initial files input)
  let w := after.world
  let ending : Option Tool.Ending := match result with
    | .ok _ => some (.exited (after.status % 256))
    | .error (.exit status) => some (.exited (status % 256))
    | .error (.killed _ _) => some .signalled
    | .error (.returns status) => some (.exited (status % 256))
    | .error _ => none
  { stdout := written w 1, stderr := written w 2,
    ending := if w.holders.any (·.2.isNone) then none else ending,
    elapsed := ⟨(w.holders.filterMap (·.2)).foldl max w.now⟩ }

end LintBridge.Shell
