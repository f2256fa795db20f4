import LintBridge.Shell.Program.Basic

namespace LintBridge.Shell.Program

inductive Arity where
  | none
  | required
  | optional
  deriving DecidableEq, Repr

structure Grammar where
  letters : List (Char × Arity)
  words : List (String × Arity × String)
  ordered : Bool

def readLetters : Octets → List (Char × Arity)
  | c :: ':' :: ':' :: cs => (c, .optional) :: readLetters cs
  | c :: ':' :: cs => (c, .required) :: readLetters cs
  | c :: cs => (c, .none) :: readLetters cs
  | [] => []

def readWordArity (word : String) : String × Arity :=
  match word.toList.reverse with
  | '?' :: '=' :: cs => (String.ofList cs.reverse, .optional)
  | '=' :: cs => (String.ofList cs.reverse, .required)
  | _ => (word, .none)

def Grammar.read (letters : String) (words : List (String × String)) : Grammar :=
  let (ordered, letters) := match letters.toList with
    | '+' :: cs => (true, cs)
    | cs => (false, cs)
  ⟨readLetters letters, (words ++ [("help", "help"), ("version", "version")]).map fun (word, key) =>
    let (word, arity) := readWordArity word
    (word, arity, key), ordered⟩

structure Options where
  given : List (String × Octets) := []
  operands : List Octets := []

namespace Options

def has (o : Options) (key : String) : Bool := o.given.any (·.1 == key)

def value? (o : Options) (key : String) : Option Octets := (o.given.reverse.find? (·.1 == key)).map (·.2)

def values (o : Options) (key : String) : List Octets := (o.given.filter (·.1 == key)).map (·.2)

def add (o : Options) (key : String) (value : Octets) : Options := { o with given := (key, value) :: o.given }

end Options

inductive OptionFault where
  | invalid (c : Char)
  | valueMissing (c : Char)
  | unknown (word : Octets)
  | ambiguous (word : Octets) (candidates : List String)
  | wordValueMissing (word : String)
  | valueUnexpected (word : String)
  deriving DecidableEq, Repr

def quotes (cs : Octets) : Octets := '\x27' :: cs ++ ['\x27']

def OptionFault.text : OptionFault → Octets
  | .invalid c => "invalid option -- ".toList ++ quotes [c]
  | .valueMissing c => "option requires an argument -- ".toList ++ quotes [c]
  | .unknown word => "unrecognized option ".toList ++ quotes ("--".toList ++ word)
  | .ambiguous word candidates => "option ".toList ++ quotes ("--".toList ++ word) ++ " is ambiguous; possibilities:".toList ++
      candidates.flatMap fun c => ' ' :: quotes ("--".toList ++ c.toList)
  | .wordValueMissing word => "option ".toList ++ quotes ("--".toList ++ word.toList) ++ " requires an argument".toList
  | .valueUnexpected word => "option ".toList ++ quotes ("--".toList ++ word.toList) ++ " doesn't allow an argument".toList

/-- The letters of one argument; a value may follow in the next. -/
def Grammar.cluster (g : Grammar) : Octets → List Octets → Except OptionFault (List (String × Octets) × List Octets)
  | [], args => .ok ([], args)
  | c :: cs, args =>
      match g.letters.lookup c with
      | none => .error (.invalid c)
      | some .none => do
          let (given, args) ← g.cluster cs args
          return ((c.toString, []) :: given, args)
      | some .optional => .ok ([(c.toString, cs)], args)
      | some .required =>
          if !cs.isEmpty then .ok ([(c.toString, cs)], args)
          else match args with
            | value :: args => .ok ([(c.toString, value)], args)
            | [] => .error (.valueMissing c)

def Grammar.word (g : Grammar) (text : Octets) : Except OptionFault (String × Arity × String) :=
  match g.words.find? fun w => w.1.toList == text with
  | some w => .ok w
  | none =>
      match g.words.filter fun w => text.isPrefixOf w.1.toList with
      | [] => .error (.unknown text)
      | w :: more => if more.all (·.2 == w.2) then .ok w else .error (.ambiguous text ((w :: more).map (·.1)))

def Grammar.parseFuel (g : Grammar) : Nat → List Octets → Except OptionFault Options
  | 0, args => .ok { operands := args }
  | _, [] => .ok {}
  | n + 1, arg :: args =>
      match arg with
      | ['-', '-'] => .ok { operands := args }
      | '-' :: '-' :: text => do
          let name := text.takeWhile (· ≠ '=')
          let value := if name.length < text.length then some (text.drop (name.length + 1)) else none
          let (word, arity, key) ← (g.word name).mapError fun
            | .unknown _ => .unknown text
            | .ambiguous _ candidates => .ambiguous text candidates
            | e => e
          match arity, value with
          | .none, some _ => .error (.valueUnexpected word)
          | .required, none =>
              match args with
              | value :: args => return (← g.parseFuel n args).add key value
              | [] => .error (.wordValueMissing word)
          | _, value => return (← g.parseFuel n args).add key (value.getD [])
      | '-' :: c :: cs => do
          let (given, args) ← g.cluster (c :: cs) args
          let o ← g.parseFuel n args
          return { o with given := given ++ o.given }
      | arg => do
          if g.ordered then return { operands := arg :: args }
          let o ← g.parseFuel n args
          return { o with operands := arg :: o.operands }

def Grammar.parse (g : Grammar) (args : List Octets) : Except OptionFault Options := g.parseFuel (args.length + 1) args

open Exec

def hint (who : Octets) : Octets := "Try '".toList ++ who ++ " --help' for more information.\n".toList

def misuse (who : Octets) (status : Nat) (text : Octets) : Exec Nat := do
  complain who text
  write 2 (hint who)
  return status

def withOptions (who : Octets) (status : Nat) (letters : String) (words : List (String × String)) (args : List Octets)
    (body : Options → Exec Nat) : Exec Nat := do
  match (Grammar.read letters words).parse args with
  | .ok o => if o.has "help" || o.has "version" then return 0 else body o
  | .error e => misuse who status e.text

end LintBridge.Shell.Program
