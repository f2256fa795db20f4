namespace LintBridge.Log

inductive Level where
  | error
  | warn
  | info
  | debug
  | trace
  deriving DecidableEq, Repr

namespace Level

def name : Level → String
  | .error => "ERROR"
  | .warn => "WARN"
  | .info => "INFO"
  | .debug => "DEBUG"
  | .trace => "TRACE"

/-- The number of a level; a limit lets through the levels up to it. -/
def rank : Level → Nat
  | .error => 1
  | .warn => 2
  | .info => 3
  | .debug => 4
  | .trace => 5

end Level

inductive Area where
  | program
  | session
  | settings
  | validation
  | tool
  | report
  deriving DecidableEq, Repr

def Area.target : Area → String
  | .program => "analysis_lsp::lsp::server"
  | .session => "analysis_lsp::lsp::backend"
  | .settings => "analysis_lsp::lsp::settings"
  | .validation => "analysis_lsp::lsp::validation"
  | .tool => "analysis_lsp::tool::shell"
  | .report => "analysis_lsp::parser::report"

structure Entry where
  level : Level
  area : Area
  message : String
  details : List String := []
  deriving DecidableEq, Repr

def Entry.fields (e : Entry) : List String := "message" :: e.details

end LintBridge.Log
