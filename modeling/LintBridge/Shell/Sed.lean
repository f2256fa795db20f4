import LintBridge.Shell.Regex.Search

namespace LintBridge.Shell.Sed

/-- An expression; the empty one stands for the last that was used. -/
inductive Pattern where
  | last
  | given (regex : Regex) (mode : Regex.Mode)
  deriving DecidableEq, Repr

inductive Address where
  | line (n : Nat)
  | last
  | matching (p : Pattern)
  | step (first every : Nat)
  deriving DecidableEq, Repr

inductive RangeEnd where
  | address (a : Address)
  | count (n : Nat)
  | multiple (n : Nat)
  deriving DecidableEq, Repr

inductive Piece where
  | char (c : Char)
  | group (n : Nat)
  | shift (upper : Option Bool)
  | shiftOne (upper : Bool)
  deriving DecidableEq, Repr

structure Substitution where
  pattern : Pattern
  target : List Piece
  /-- The first match that is replaced, and whether those after it are too. -/
  nth : Nat
  all : Bool
  print : Bool
  run : Bool
  file : Option Octets
  deriving DecidableEq, Repr

inductive Action where
  | substitute (s : Substitution)
  | mapChars (source target : Octets)
  | print
  | printFirst
  | delete
  | deleteFirst
  | next
  | nextAppend
  | quit (status : Nat)
  | quitSilently (status : Nat)
  | number
  | append (text : Octets)
  | insert (text : Octets)
  | change (text : Octets)
  | hold
  | holdAppend
  | get
  | getAppend
  | exchange
  | branch (label : Octets)
  | branchIf (substituted : Bool) (label : Octets)
  | label (name : Octets)
  | opens
  | closes
  | list (width : Option Nat)
  | empty
  | fileName
  | appendFile (path : Octets)
  | appendFileLine (path : Octets)
  | writeFile (path : Octets)
  | writeFirst (path : Octets)
  | execute (command : Octets)
  deriving DecidableEq, Repr

structure Command where
  first : Option Address
  stop : Option RangeEnd
  negated : Bool
  action : Action
  deriving DecidableEq, Repr

inductive Fault where
  | unknownCommand (c : Char)
  | missingCommand
  | unterminated (command : Char)
  | unterminatedAddress
  | unknownFlag
  | repeatedFlag (c : Char)
  | repeatedNumber
  | zeroNumber
  | lengths
  | zeroAddress
  | extra
  | noText
  | openGroup
  | unexpectedClose
  | closeAddress
  | labelAddress
  | commentAddress
  | oneAddress
  | comma
  | relativeFirst
  | repeatedBang
  | noLabel
  | noFile
  | reference (n : Nat)
  | newerVersion
  | emptyModifiers
  | noPrevious
  | sandbox
  | regex (f : Regex.Fault)
  deriving DecidableEq, Repr

def Fault.message : Fault → String
  | .unknownCommand c => "unknown command: `" ++ String.ofList [c] ++ "'"
  | .missingCommand => "missing command"
  | .unterminated c => "unterminated `" ++ String.ofList [c] ++ "' command"
  | .unterminatedAddress => "unterminated address regex"
  | .unknownFlag => "unknown option to `s'"
  | .repeatedFlag c => "multiple `" ++ String.ofList [c] ++ "' options to `s' command"
  | .repeatedNumber => "multiple number options to `s' command"
  | .zeroNumber => "number option to `s' command may not be zero"
  | .lengths => "strings for `y' command are different lengths"
  | .zeroAddress => "invalid usage of line address 0"
  | .extra => "extra characters after command"
  | .noText => "expected \\ after `a', `c' or `i'"
  | .openGroup => "unmatched `\x7b'"
  | .unexpectedClose => "unexpected `\x7d'"
  | .closeAddress => "`\x7d' doesn't want any addresses"
  | .labelAddress => ": doesn't want any addresses"
  | .commentAddress => "comments don't accept any addresses"
  | .oneAddress => "command only uses one address"
  | .comma => "unexpected `,'"
  | .relativeFirst => "invalid usage of +N or ~N as first address"
  | .repeatedBang => "multiple `!'s"
  | .noLabel => "\":\" lacks a label"
  | .noFile => "missing filename in r/R/w/W commands"
  | .reference n => "invalid reference \\" ++ toString n ++ " on `s' command's RHS"
  | .newerVersion => "expected newer version of sed"
  | .emptyModifiers => "cannot specify modifiers on empty regexp"
  | .noPrevious => "no previous regular expression"
  | .sandbox => "e/r/w commands disabled in sandbox mode"
  | .regex f => f.message

end LintBridge.Shell.Sed
