import LintBridge.Uri.Host

namespace LintBridge

namespace Uri

structure Authority where
  user : Option String := none
  host : Option Host := none
  port : Option Nat := none
  deriving DecidableEq, Repr

inductive Path where
  | segments (parts : List String)
  | plain (text : String)
  deriving DecidableEq, Repr

namespace Path

def text : Path → String
  | .segments parts => String.join (parts.map ("/" ++ ·))
  | .plain t => t

end Path

namespace Authority

def text (a : Authority) : String :=
  (match a.user with
    | some u => u ++ "@"
    | none => "") ++
  (match a.host with
    | some h => h.text
    | none => "") ++
  (match a.port with
    | some p => ":" ++ toString p
    | none => "")

end Authority

end Uri

/-- A URI in normal form. Two of them name the same document exactly when they are equal. -/
structure Uri where
  scheme : String
  authority : Option Uri.Authority := none
  path : Uri.Path
  query : Option String := none
  fragment : Option String := none
  deriving DecidableEq, Repr

namespace Uri

def suffixText (mark : String) : Option String → String
  | some t => mark ++ t
  | none => ""

/-- Without an authority a path must not begin with two slashes. -/
def pathText (u : Uri) : String :=
  match u.authority, u.path with
  | none, .segments ("" :: s :: rest) => "/." ++ (Path.segments ("" :: s :: rest)).text
  | _, p => p.text

def text (u : Uri) : String :=
  u.scheme ++ ":" ++
  (match u.authority with
    | some a => "//" ++ a.text
    | none => "") ++
  u.pathText ++ suffixText "?" u.query ++ suffixText "#" u.fragment

end Uri

end LintBridge
