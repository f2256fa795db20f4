import LintBridge.Shell.Regex.Search

namespace LintBridge.Shell.Awk

inductive Special where
  | numberOfFields | recordNumber | fileRecordNumber
  | fieldSeparator | recordSeparator | outputFieldSeparator | outputRecordSeparator
  | subscriptSeparator | conversionFormat | outputFormat
  deriving DecidableEq, Repr

def Special.names : List (String × Special) := [
  ("NF", .numberOfFields), ("NR", .recordNumber), ("FNR", .fileRecordNumber), ("FS", .fieldSeparator),
  ("RS", .recordSeparator), ("OFS", .outputFieldSeparator), ("ORS", .outputRecordSeparator),
  ("SUBSEP", .subscriptSeparator), ("CONVFMT", .conversionFormat), ("OFMT", .outputFormat)]

inductive Variable where
  | special (s : Special)
  | shared (i : Nat)
  | parameter (i : Nat)
  deriving DecidableEq, Repr

def firstNames : List String := ["FILENAME", "RSTART", "RLENGTH", "ARGC", "ARGV", "ENVIRON"]

def fileNameIndex : Nat := 0
def matchStartIndex : Nat := 1
def matchLengthIndex : Nat := 2
def argumentCountIndex : Nat := 3
def argumentsIndex : Nat := 4
def environmentIndex : Nat := 5

inductive Operator where
  | add | subtract | multiply | divide | modulo | power
  deriving DecidableEq, Repr

inductive Comparison where
  | less | atMost | equal | different | greater | atLeast
  deriving DecidableEq, Repr

inductive Sign where
  | minus | plus | negation
  deriving DecidableEq, Repr

inductive Function where
  | length | index | substr | split | sub | gsub | matches | sprintf
  | sin | cos | atan2 | exp | log | sqrt | int | rand | srand
  | tolower | toupper | close | system | fflush | systime | strftime | mktime
  deriving DecidableEq, Repr

def Function.names : List (String × Function) := [
  ("length", .length), ("index", .index), ("substr", .substr), ("split", .split), ("sub", .sub), ("gsub", .gsub),
  ("match", .matches), ("sprintf", .sprintf), ("sin", .sin), ("cos", .cos), ("atan2", .atan2), ("exp", .exp), ("log", .log),
  ("sqrt", .sqrt), ("int", .int), ("rand", .rand), ("srand", .srand), ("tolower", .tolower), ("toupper", .toupper),
  ("close", .close), ("system", .system), ("fflush", .fflush), ("systime", .systime), ("strftime", .strftime),
  ("mktime", .mktime)]

def Function.name (f : Function) : String := ((names.find? fun p => p.2 = f).map (·.1)).getD ""

def Function.arity : Function → Nat × Nat
  | .length => (0, 1)
  | .index => (2, 2)
  | .substr => (2, 3)
  | .split => (2, 3)
  | .sub => (2, 3)
  | .gsub => (2, 3)
  | .matches => (2, 2)
  | .sprintf => (1, 255)
  | .atan2 => (2, 2)
  | .rand => (0, 0)
  | .srand => (0, 1)
  | .fflush => (0, 1)
  | .systime => (0, 0)
  | .strftime => (0, 3)
  | .mktime => (1, 1)
  | _ => (1, 1)

inductive Expr where
  | num (x : Float)
  | str (cs : Octets)
  | regex (r : Regex)
  | var (v : Variable)
  | field (e : Expr)
  | item (array : Variable) (index : List Expr)
  | assign (target : Expr) (op : Option Operator) (e : Expr)
  /-- A variable is changed by a number; the value is that after the change, or that before it. -/
  | bump (target : Expr) (change : Float) (after : Bool)
  | cond (c a b : Expr)
  | both (a b : Expr)
  | either (a b : Expr)
  | member (index : List Expr) (array : Variable)
  | hits (e pattern : Expr) (wanted : Bool)
  | compare (op : Comparison) (a b : Expr)
  | concat (a b : Expr)
  | arith (op : Operator) (a b : Expr)
  | sign (s : Sign) (e : Expr)
  | call (name : String) (args : List Expr)
  | builtIn (f : Function) (args : List Expr)
  | getMain (target : Option Expr)
  | getFile (path : Expr) (target : Option Expr)
  | getCommand (command : Expr) (target : Option Expr)

inductive Sink where
  | output
  | file (path : Expr)
  | append (path : Expr)
  | pipe (command : Expr)

inductive Stmt where
  | expr (e : Expr)
  | print (args : List Expr) (sink : Sink)
  | printf (args : List Expr) (sink : Sink)
  | cond (c : Expr) (a b : List Stmt)
  | loop (c : Option Expr) (body : List Stmt) (step : List Stmt) (testFirst : Bool)
  | each (name array : Variable) (body : List Stmt)
  | block (body : List Stmt)
  | next
  | nextFile
  | exit (e : Option Expr)
  | breaks
  | continues
  | returns (e : Option Expr)
  | delete (array : Variable) (index : List Expr)
  | deleteAll (array : Variable)

inductive Pattern where
  | always
  | begins
  | finishes
  | expr (e : Expr)
  /-- From a record to another one; ranges are numbered. -/
  | range (number : Nat) (a b : Expr)

structure Rule where
  pattern : Pattern
  body : List Stmt

structure Definition where
  name : String
  parameters : List String
  body : List Stmt

structure Script where
  rules : List Rule
  functions : List Definition
  names : List String

end LintBridge.Shell.Awk
