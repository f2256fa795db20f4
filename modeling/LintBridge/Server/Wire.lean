import LintBridge.Json.Printer
import LintBridge.Json.Reader
import LintBridge.Server.Session

namespace LintBridge.Wire

inductive Received where
  | message (m : Incoming)
  | answer (number : Nat) (a : Session.Answer)

def ofJson? (v : Json) : Option Received :=
  match (v.get? "method").bind Json.str? with
  | some method => some (.message { method := method, params := v.get? "params", id := v.get? "id" })
  | none => do
      let number ← (v.get? "id").bind Json.nat?
      match (v.get? "error").bind fun e => (e.get? "code").bind Json.int? with
      | some code => return .answer number (.failure code)
      | none => return .answer number (.result ((v.get? "result").getD .null))

def ofText? (text : String) : Option Received := (Json.parse? text).bind ofJson?

def versioned (fields : List (String × Json)) : Json := .obj (("jsonrpc", .str "2.0") :: fields)

/-- The messages among some effects; requests are numbered from a first number on. -/
def encode (number : Nat) : List Effect → List Json
  | [] => []
  | .send m :: es =>
      if m.isRequest then
        versioned [("method", .str m.method), ("params", m.params), ("id", .ofNat number)] :: encode (number + 1) es
      else versioned [("method", .str m.method), ("params", m.params)] :: encode number es
  | .respond (.result id v) :: es => versioned [("result", v), ("id", id)] :: encode number es
  | .respond (.refused id why) :: es =>
      versioned [("error", .obj [("code", .int why.code), ("message", .str why.message)]), ("id", id)] :: encode number es
  | _ :: es => encode number es

def frame (v : Json) : String :=
  let body := v.print
  "Content-Length: " ++ toString body.utf8ByteSize ++ "\x0d\n\x0d\n" ++ body

def contentLength? (line : String) : Option Nat :=
  match line.splitOn ":" with
  | [name, value] =>
      if name.toLower == "content-length" then (String.ofList (Text.trim value.toList)).toNat? else none
  | _ => none

end LintBridge.Wire
