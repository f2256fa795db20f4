import LintBridge.Duration
import LintBridge.Text.Utf8

namespace LintBridge

namespace Config

def serverName : String := "analysis-lsp"
def serverVersion : String := "0.1.0"
def defaultCommand : String := "soar -report-type lint"
def settingsSection : String := "analysis-tool-settings"

/-- Appends a relative path; a slash is put between unless there is one. -/
def join (base : Bytes) (name : String) : Bytes :=
  match base.getLast? with
  | none => bytesOf name
  | some b => if b = 0x2F then base ++ bytesOf name else base ++ 0x2F :: bytesOf name

/-- The directory for data: under the given data home if it is text and not empty, else under the
home directory, else under the working directory. -/
def dataDir (dataHome : Option Bytes) (home : Option Bytes) : Bytes :=
  let chosen := dataHome.filter fun d => !d.isEmpty && (Utf8.decode? d).isSome
  let base := match chosen, home with
    | some d, _ => d
    | none, some h => join h ".local/share"
    | none, none => bytesOf "."
  join base serverName

def logFileName : String := serverName ++ ".log"

def logPath (dataHome : Option Bytes) (home : Option Bytes) : Bytes :=
  join (dataDir dataHome home) logFileName

end Config

structure Config where
  command : String := Config.defaultCommand
  limit : Option Duration := none
  deriving DecidableEq, Repr

def Config.ofMillis (command : String) (limit : Option Nat) : Config :=
  ⟨command, limit.map Duration.ofMillis⟩

end LintBridge
