import LintBridge.Shell.Awk.Arrays
import LintBridge.Shell.Awk.Evaluation
import LintBridge.Shell.Builtin
import LintBridge.Shell.Program.Input

namespace LintBridge.Shell.Program

open Awk (Context Halt Memory Run Rule Script Stage Value)

/-- How long programs may go on; the machine ends them before. -/
def awkFuel : Nat := 1000000000000000

def runAction (c : Context) (rule : Rule) : Run Unit := do
  let _ ← Awk.execAll c awkFuel rule.body

def runRules (c : Context) : List Rule → Run Unit
  | [] => return ()
  | rule :: rules => do
      match rule.pattern with
      | .always => runAction c rule
      | .expr e => do
          let v ← Awk.eval c awkFuel e
          if v.truth then runAction c rule
      | .range k a b => do
          let isOpen ← (do
            if (← Awk.memory).ranges.contains k then return true
            else return (← Awk.eval c awkFuel a).truth : Run Bool)
          if isOpen then
            let ends := (← Awk.eval c awkFuel b).truth
            Awk.remember fun m =>
              { m with ranges := if ends then m.ranges.filter (· ≠ k) else k :: m.ranges.filter (· ≠ k) }
            runAction c rule
      | .begins => pure ()
      | .finishes => pure ()
      runRules c rules

def leaveFunctions (c : Context) : Run Unit :=
  Awk.remember fun m => { m with frame := #[], depth := 0, tables := m.tables.extract 0 c.script.names.length }

def runRecords (c : Context) (rules : List Rule) : Nat → Run Unit
  | 0 => throw (.stop .endless)
  | n + 1 => do
      match ← Awk.readMain c with
      | none => return ()
      | some record => do
          Awk.remember fun m => m.setRecord record
          tryCatch (runRules c rules) fun
            | .next => leaveFunctions c
            | .nextFile => do
                leaveFunctions c
                Awk.remember fun m => { m with main := none }
            | halt => throw halt
          runRecords c rules n

def runEach (c : Context) : List Rule → Run Unit
  | [] => return ()
  | rule :: rules => do
      runAction c rule
      runEach c rules

/-- Runs something unless the program has ended; true if it ends here. -/
def untilExit (c : Context) (body : Run Unit) : Run Bool := do
  tryCatch (do
    body
    return false) fun
    | .exit => do
        leaveFunctions c
        return true
    | halt => throw halt

/-- Runs the rules of a program in their order: those before the input, those for records, and those at the end. -/
def runScriptRules (c : Context) : Run Unit := do
  let rules := c.script.rules
  let begins := rules.filter fun r => match r.pattern with
    | .begins => true
    | _ => false
  let finishes := rules.filter fun r => match r.pattern with
    | .finishes => true
    | _ => false
  let others := rules.filter fun r => match r.pattern with
    | .begins => false
    | .finishes => false
    | _ => true
  let ended ← untilExit c (runEach c begins)
  if !ended && !(others.isEmpty && finishes.isEmpty) then
    let _ ← untilExit c (runRecords c others awkFuel)
  let _ ← untilExit c (runEach c finishes)

/-- Runs a program to its end, whatever stops it: what was printed goes out after what commands write that were
printed to. -/
def runWhole (c : Context) : Run Unit := do
  let close : Run Unit := do
    let outlets := (← Awk.memory).outlets
    Awk.remember fun m => { m with outlets := [] }
    Awk.closeOutlets c outlets
    Awk.flush
  tryCatch (do
    runScriptRules c
    close) fun
    | .fault text => do
        Awk.outside (Exec.complain c.who text)
        Awk.remember fun m => { m with status := 2 }
        close
    | halt => throw halt

structure AwkOptions where
  separator : Option Octets := none
  assignments : List Octets := []
  files : List Octets := []
  operands : List Octets := []

inductive AwkMisuse where
  | lacksArgument (letter : Char)
  | unknown (option : Octets)
  | versionOnly

def AwkMisuse.text : AwkMisuse → Octets
  | .lacksArgument c => "option -".toList ++ [c] ++ " lacks argument".toList
  | .unknown o => "not an option: ".toList ++ o
  | .versionOnly => []

def awkOptions : Nat → AwkOptions → List Octets → Except AwkMisuse AwkOptions
  | 0, o, args => .ok { o with operands := args }
  | _, o, [] => .ok o
  | n + 1, o, arg :: rest =>
      let valued := fun (letter : Char) (value : Octets) (use : Octets → AwkOptions) =>
        if !value.isEmpty then awkOptions n (use value) rest
        else match rest with
          | value :: rest => awkOptions n (use value) rest
          | [] => .error (.lacksArgument letter)
      match arg with
      | ['-', '-'] => .ok { o with operands := rest }
      | '-' :: 'F' :: value => valued 'F' value fun v => { o with separator := some v }
      | '-' :: 'v' :: value => valued 'v' value fun v => { o with assignments := o.assignments ++ [v] }
      | '-' :: 'f' :: value => valued 'f' value fun v => { o with files := o.files ++ [v] }
      | '-' :: 'W' :: value =>
          valued 'W' value fun _ => o
      | '-' :: '-' :: word => if word == "version".toList || word == "help".toList then .error .versionOnly else .error (.unknown arg)
      | '-' :: _ :: _ => .error (.unknown arg)
      | _ => .ok { o with operands := arg :: rest }

def readProgramFiles (who : Octets) : List Octets → Exec Octets
  | [] => return []
  | path :: paths => do
      match ← readOperand path with
      | .ok text => do
          let rest ← readProgramFiles who paths
          return text ++ '\n' :: rest
      | .error e => do
          Exec.complain who ("cannot open ".toList ++ path ++ " (".toList ++ e.plainText.toList ++ [')'])
          throw (.exit 2)

def firstMemory (script : Script) (arguments : List Octets) (environment : List (Octets × Octets)) : Memory :=
  let count := script.names.length
  let tables := Array.replicate count ({} : Awk.Table)
  let arrays := arguments.zipIdx.foldl (fun (t : Awk.Table) (a, i) =>
    t.set ⟨Octets.ofNat i, some i⟩ (.input a)) {}
  let surroundings := environment.foldl (fun (t : Awk.Table) (k, v) => t.set ⟨k, none⟩ (.input v)) {}
  let shared := ((Array.replicate count Value.unset).setIfInBounds Awk.argumentCountIndex (.ofNat arguments.length))
  { shared := shared.setIfInBounds Awk.fileNameIndex (.str []),
    tables := (tables.setIfInBounds Awk.argumentsIndex arrays).setIfInBounds Awk.environmentIndex surroundings }

def ownName (path : Octets) : Octets := (path.reverse.takeWhile (· ≠ '/')).reverse

def awk (caller : Caller) (name : Octets) (args : List Octets) : Exec Nat := do
  let who := ownName name
  match awkOptions args.length.succ {} args with
  | .error .versionOnly => return 0
  | .error m => do
      Exec.complain who m.text
      return 2
  | .ok o => do
      match o.assignments.find? fun a => (Awk.assignment? a).isNone with
      | some a => do
          Exec.complain who ("improper assignment: -v ".toList ++ a)
          return 2
      | none => do
      let fromFiles ← readProgramFiles who o.files
      let (text, operands) := match o.files, o.operands with
        | [], text :: operands => (some text, operands)
        | [], [] => (none, [])
        | _, operands => (some fromFiles, operands)
      match text with
      | none => return 2
      | some text => do
          match Awk.parse text with
          | .error p => do
              Exec.complain who ("line ".toList ++ Octets.ofNat p.line ++ ": ".toList ++ p.fault.message)
              return 2
          | .ok script => do
              match script.clash? with
              | some text => do
                  Exec.complain who ("line 1: ".toList ++ text)
                  return 2
              | none => do
              let s ← get
              let c : Context := {
                script := script, functions := Std.HashMap.ofList (script.functions.map fun d => (d.name, d)),
                arrayParameters := Awk.arrayParameters script.functions, caller := caller, who := who }
              let start : Run Unit := do
                match o.separator with
                | some fs => Awk.setSpecial .fieldSeparator (.str (Awk.givenText fs))
                | none => pure ()
                for a in o.assignments do
                  match Awk.assignment? a with
                  | some (name, value) => Awk.assignGiven c name value
                  | none => pure ()
                runWhole c
              let stage : Stage := ⟨firstMemory script (who :: operands) (Builtin.environment s), s⟩
              match start.run stage with
              | .ok _ stage => do
                  set stage.machine
                  return stage.memory.status
              | .error (.stop stop) stage => do
                  set stage.machine
                  throw stop
              | .error (.fault text) stage => do
                  set stage.machine
                  Exec.complain who text
                  return 2
              | .error _ stage => do
                  set stage.machine
                  return stage.memory.status

end LintBridge.Shell.Program
