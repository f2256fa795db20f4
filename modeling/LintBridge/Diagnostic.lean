import LintBridge.Json.Basic
import LintBridge.Report

namespace LintBridge

structure Position where
  line : Nat
  character : Nat
  deriving DecidableEq, Repr

structure Range where
  start : Position
  stop : Position
  deriving DecidableEq, Repr

inductive Severity where
  | error
  | warning
  | information
  | hint
  deriving DecidableEq, Repr

structure Diagnostic where
  range : Range
  severity : Severity
  source : String
  message : String
  deriving DecidableEq, Repr

namespace Position

def toJson (p : Position) : Json :=
  .obj [("line", .ofNat p.line), ("character", .ofNat p.character)]

end Position

namespace Range

def point (p : Position) : Range := ⟨p, p⟩

def toJson (r : Range) : Json := .obj [("start", r.start.toJson), ("end", r.stop.toJson)]

end Range

namespace Severity

def code : Severity → Nat
  | .error => 1
  | .warning => 2
  | .information => 3
  | .hint => 4

end Severity

namespace Diagnostic

def sourceName : String := "analysis-tool"

/-- A finding is a warning at the second character of its line. -/
def ofFinding (f : Finding) : Diagnostic :=
  ⟨.point ⟨f.line, 1⟩, .warning, sourceName, f.message⟩

def ofReport (text : String) : List Diagnostic := (Report.parse text).map ofFinding

def toJson (d : Diagnostic) : Json :=
  .obj [("range", d.range.toJson), ("severity", .ofNat d.severity.code),
    ("source", .str d.source), ("message", .str d.message)]

end Diagnostic

end LintBridge
