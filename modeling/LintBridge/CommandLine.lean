import LintBridge.Config
import LintBridge.Text.Control
import LintBridge.Text.Decimal

namespace LintBridge.CommandLine

inductive Setting where
  | command
  | timeout
  deriving DecidableEq, Repr

inductive Switch where
  | stdio
  | help
  | version
  deriving DecidableEq, Repr

def Setting.usage : Setting → String
  | .command => "--command <COMMAND>"
  | .timeout => "--timeout-ms <MS>"

def Switch.usage : Switch → String
  | .stdio => "--stdio"
  | .help => "--help"
  | .version => "--version"

inductive Fault where
  | unexpected (arg : String)
  | missingValue (s : Setting)
  | invalidTimeout (value : String) (cause : Decimal.Fault)
  | settingRepeated (s : Setting)
  | switchRepeated (s : Switch)
  | needlessValue (s : Switch) (value : String)
  deriving DecidableEq, Repr

def Fault.message : Fault → String
  | .unexpected arg => "error: unexpected argument '" ++ Text.Control.shown arg ++ "' found"
  | .missingValue s => "error: a value is required for '" ++ s.usage ++ "' but none was supplied"
  | .invalidTimeout value cause =>
      "error: invalid value '" ++ Text.Control.shown value ++ "' for '" ++ Setting.timeout.usage ++ "': " ++ cause.message
  | .settingRepeated s => "error: the argument '" ++ s.usage ++ "' cannot be used multiple times"
  | .switchRepeated s => "error: the argument '" ++ s.usage ++ "' cannot be used multiple times"
  | .needlessValue s value =>
      "error: unexpected value '" ++ Text.Control.shown value ++ "' for '" ++ s.usage ++ "' found; no more were expected"

inductive Stop where
  | fault (f : Fault)
  | help
  | version
  deriving DecidableEq, Repr

/-- What has been read so far. A setting whose value stands in the next argument is pending, with the value
once it is there; it is checked only when the next option begins. -/
structure Progress where
  command : Option String := none
  timeout : Option Nat := none
  stdio : Bool := false
  pending : Option (Setting × Option String) := none
  deriving DecidableEq, Repr

namespace Progress

def maxTimeout : Nat := 18446744073709551615

def assign (p : Progress) (s : Setting) (value : String) : Except Stop Progress :=
  match s with
  | .command =>
      if p.command.isSome then .error (.fault (.settingRepeated s)) else .ok { p with command := some value }
  | .timeout =>
      if p.timeout.isSome then .error (.fault (.settingRepeated s))
      else match Decimal.read maxTimeout value.toList with
        | .ok n => .ok { p with timeout := some n }
        | .error cause => .error (.fault (.invalidTimeout value cause))

def settle (p : Progress) : Except Stop Progress :=
  match p.pending with
  | none => .ok p
  | some (s, none) => .error (.fault (.missingValue s))
  | some (s, some value) => { p with pending := none }.assign s value

def turnOn (p : Progress) (s : Switch) : Except Stop Progress := do
  let p ← p.settle
  match s with
  | .stdio => if p.stdio then .error (.fault (.switchRepeated s)) else .ok { p with stdio := true }
  | .help => .error .help
  | .version => .error .version

def long (p : Progress) (name : String) (value : Option String) : Except Stop Progress :=
  let switch := fun (s : Switch) =>
    match value with
    | some v => .error (.fault (.needlessValue s v))
    | none => p.turnOn s
  let setting := fun (s : Setting) => do
    let p ← p.settle
    match value with
    | some v => p.assign s v
    | none => .ok { p with pending := some (s, none) }
  match name with
  | "command" => setting .command
  | "timeout-ms" => setting .timeout
  | "stdio" => switch .stdio
  | "help" => switch .help
  | "version" => switch .version
  | _ => .error (.fault (.unexpected ("--" ++ name)))

def short (p : Progress) : List Char → Except Stop Progress
  | [] => .ok p
  | 'h' :: _ => p.turnOn .help
  | 'V' :: _ => p.turnOn .version
  | c :: _ => .error (.fault (.unexpected (String.ofList ['-', c])))

def plain (p : Progress) (arg : String) : Except Stop Progress :=
  match p.pending with
  | some (s, none) => .ok { p with pending := some (s, some arg) }
  | _ => .error (.fault (.unexpected arg))

def argument (p : Progress) (arg : String) : Except Stop Progress :=
  match arg.toList with
  | '-' :: '-' :: cs =>
      let name := cs.takeWhile (· ≠ '=')
      let value := (cs.drop name.length).tail?.map String.ofList
      p.long (String.ofList name) value
  | '-' :: c :: cs => p.short (c :: cs)
  | _ => p.plain arg

/-- Reads arguments from the left. After two hyphens nothing is an option. -/
def read (p : Progress) : List String → Except Stop Progress
  | [] => p.settle
  | "--" :: [] => p.settle
  | "--" :: arg :: _ => .error (.fault (.unexpected arg))
  | arg :: args => do (← p.argument arg).read args

end Progress

def read (args : List String) : Except Stop Config := do
  let p ← Progress.read {} args
  return Config.ofMillis (p.command.getD Config.defaultCommand) p.timeout

def helpText : String :=
  "A Language Server Protocol bridge that publishes diagnostics from an external lint tool\n\n" ++
  "Usage: " ++ Config.serverName ++ " [OPTIONS]\n\n" ++
  "Options:\n" ++
  "      --command <COMMAND>  Shell command that reads a document on stdin and prints `rule:line:message` lines " ++
    "[default: \"" ++ Config.defaultCommand ++ "\"]\n" ++
  "      --timeout-ms <MS>    Kill the tool if it runs longer than this many milliseconds\n" ++
  "  -h, --help               Print help\n" ++
  "  -V, --version            Print version\n"

def versionText : String := Config.serverName ++ " " ++ Config.serverVersion ++ "\n"

structure Notice where
  stdout : String := ""
  stderr : String := ""
  status : Nat
  deriving DecidableEq, Repr

def Stop.notice : Stop → Notice
  | .help => { stdout := helpText, status := 0 }
  | .version => { stdout := versionText, status := 0 }
  | .fault f => { stderr := f.message ++ "\n", status := 2 }

end LintBridge.CommandLine
