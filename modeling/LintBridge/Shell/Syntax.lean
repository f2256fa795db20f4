import LintBridge.Shell.Octets

namespace LintBridge.Shell

inductive OpenMode where
  | read
  | write
  /-- Writing over a file even where that is forbidden. -/
  | overwrite
  | append
  | readWrite
  | duplicate
  deriving DecidableEq, Repr

inductive Fallback where
  | useDefault
  | assignDefault
  | complain
  | useAlternative
  deriving DecidableEq, Repr

mutual

/-- A part of a word. Quoted parts are neither split nor matched against files. -/
inductive Piece where
  | text (cs : Octets) (quoted : Bool)
  | param (name : Octets) (op : ParamOp) (quoted : Bool)
  | length (name : Octets) (quoted : Bool)
  | command (body : List Command) (quoted : Bool)
  | arith (expr : List Piece) (quoted : Bool)
  | home (user : Octets)
  | bad

inductive ParamOp where
  | plain
  | fallback (kind : Fallback) (emptyCounts : Bool) (word : List Piece)
  | trim (fromEnd longest : Bool) (word : List Piece)

inductive Redirect where
  | file (fd : Nat) (mode : OpenMode) (target : List Piece)
  | here (fd : Nat) (body : List Piece)

inductive Command where
  | simple (line : Nat) (assigns : List (Octets × List Piece)) (words : List (List Piece)) (redirects : List Redirect)
  | pipeline (negated : Bool) (parts : List Command)
  | and (a b : Command)
  | or (a b : Command)
  | background (c : Command)
  | subshell (body : List Command) (redirects : List Redirect)
  | group (body : List Command) (redirects : List Redirect)
  | conditional (test body other : List Command) (redirects : List Redirect)
  | loop (negated : Bool) (test body : List Command) (redirects : List Redirect)
  | forEach (line : Nat) (name : Octets) (words : Option (List (List Piece))) (body : List Command)
      (redirects : List Redirect)
  | select (word : List Piece) (cases : List (List (List Piece) × List Command)) (redirects : List Redirect)
  | define (name : Octets) (body : Command)

end

abbrev Word := List Piece

abbrev Aliases := List (Octets × Octets)

end LintBridge.Shell
