import LintBridge.Shell.Program.Input
import LintBridge.Shell.Pattern
import LintBridge.Shell.Format

namespace LintBridge.Shell.Program

open Exec

inductive SetPart where
  | char (c : Char)
  | range (low high : Char)
  | named (name : Octets)
  | same (c : Char)
  | again (c : Char) (count : Nat)
  deriving DecidableEq, Repr

inductive SetFault where
  | range (low high : Octets)
  | named (name : Octets)
  | again (count : Octets)
  | several
  deriving DecidableEq, Repr

namespace SetPart

abbrev Marked := Char × Bool

def unescape : Nat → Octets → List Marked
  | 0, _ => []
  | _, [] => []
  | _, ['\\'] => [('\\', false)]
  | n + 1, '\\' :: c :: cs =>
      if (Format.octal? c).isSome then
        let (d, rest) := Format.octal 3 (c :: cs)
        (d, true) :: unescape n rest
      else match c with
        | '\\' => ('\\', true) :: unescape n cs
        | c => (((Format.simpleEscape? c).getD c), true) :: unescape n cs
  | n + 1, c :: cs => (c, false) :: unescape n cs

def name? (sign : Char) (cs : List Marked) : Option (Octets × List Marked) :=
  let rec find : List Marked → Octets → Option (Octets × List Marked)
    | (a, false) :: (']', false) :: rest, name => if a = sign then some (name.reverse, rest) else find ((']', false) :: rest) (a :: name)
    | (a, _) :: rest, name => find rest (a :: name)
    | [], _ => none
  find cs []

/-- The count of a repetition up to its closing bracket; it is octal if it begins with a zero. -/
def count? (cs : List Marked) : Option (Octets × List Marked) :=
  let digits := cs.takeWhile fun m => m.1 ≠ ']'
  match cs.drop digits.length with
  | _ :: rest => some (digits.map (·.1), rest)
  | [] => none

def countValue? (digits : Octets) : Option Nat :=
  match digits with
  | [] => some 0
  | '0' :: ds => if ds.all fun c => (Format.octal? c).isSome then
      some (ds.foldl (fun n c => n * 8 + (Format.octal? c).getD 0) 0) else none
  | ds => Octets.nat? ds

def read : Nat → List Marked → Except SetFault (List SetPart)
  | 0, _ => .ok []
  | _, [] => .ok []
  | n + 1, m :: cs =>
      let plain : Unit → Except SetFault (List SetPart) := fun _ =>
        match cs with
        | ('-', false) :: (d, _) :: rest =>
            if d < m.1 then .error (.range [m.1] [d]) else do return .range m.1 d :: (← read n rest)
        | _ => do return .char m.1 :: (← read n cs)
      match m, cs with
      | ('[', false), (':', false) :: rest =>
          match name? ':' rest with
          | some (name, rest) =>
              if (CharSet.named name).isEmpty then .error (.named name) else do return .named name :: (← read n rest)
          | none => plain ()
      | ('[', false), ('=', false) :: rest =>
          match name? '=' rest with
          | some ([c], rest) => do return .same c :: (← read n rest)
          | some _ => .error .several
          | none => plain ()
      | ('[', false), (c, _) :: ('*', false) :: rest =>
          match count? rest with
          | some (digits, rest) =>
              match countValue? digits with
              | some k => do return .again c k :: (← read n rest)
              | none => .error (.again digits)
          | none => plain ()
      | _, _ => plain ()

def parse (cs : Octets) : Except SetFault (List SetPart) :=
  let marked := unescape cs.length cs
  read (marked.length + 1) marked

def inRanges (ranges : List (Char × Char)) : Octets :=
  ((List.range 256).map Char.ofNat).filter fun c => ranges.any fun r => r.1 ≤ c && c ≤ r.2

/-- The characters of a part. A repetition without a count fills up what is missing. -/
def expand (missing : Nat) : SetPart → Octets
  | .char c => [c]
  | .range low high => (List.range' low.toNat (high.toNat + 1 - low.toNat)).map Char.ofNat
  | .named name => inRanges (CharSet.named name)
  | .same c => [c]
  | .again c 0 => List.replicate missing c
  | .again c k => List.replicate k c

def expandAll (missing : Nat) (parts : List SetPart) : Octets := parts.flatMap (expand missing)

def caseClasses : Nat → List SetPart → List Nat
  | _, [] => []
  | i, p :: ps =>
      let more := caseClasses (i + (p.expand 0).length) ps
      match p with
      | .named name => if name == "upper".toList || name == "lower".toList then i :: more else more
      | _ => more

end SetPart

def squeeze (p : Char → Bool) : Option Char → Octets → Octets → Octets
  | _, out, [] => out.reverse
  | last, out, c :: cs => if last = some c && p c then squeeze p last out cs else squeeze p (some c) (c :: out) cs

def tableOf (pairs : List (Char × Char)) : Array Char :=
  pairs.foldl (fun (t : Array Char) p => t.setIfInBounds p.1.toNat p.2) ((List.range 256).map Char.ofNat).toArray

def memberTable (cs : Octets) : Array Bool :=
  cs.foldl (fun (t : Array Bool) c => t.setIfInBounds c.toNat true) (Array.replicate 256 false)

def SetFault.text : SetFault → Octets
  | .range low high => "range-endpoints of '".toList ++ low ++ '-' :: high ++ "' are in reverse collating sequence order".toList
  | .named name => "invalid character class ".toList ++ quotes name
  | .again count => "invalid repeat count ".toList ++ quotes count ++ " in [c*n] construct".toList
  | .several => "equivalence class operand must be a single character".toList

def tr (who : Octets) (args : List Octets) : Exec Nat :=
  withOptions who 1 "+cCdst" [("complement", "c"), ("delete", "d"), ("squeeze-repeats", "s"), ("truncate-set1", "t")] args fun o => do
    let complements := o.has "c" || o.has "C"
    let deletes := o.has "d"
    let squeezes := o.has "s"
    let refuse := fun (text : Octets) => do
      complain who text
      return 1
    let fewest := if deletes == squeezes then 2 else 1
    let most := if deletes && !squeezes then 1 else 2
    let explain := fun (text : Octets) (reason : String) => do
      complain who text
      if reason != "" then write 2 (reason.toList ++ ['\n'])
      write 2 (hint who)
      return 1
    if o.operands.isEmpty then misuse who 1 "missing operand".toList
    else if o.operands.length < fewest then
      explain ("missing operand after ".toList ++ quotes (o.operands.getLastD []))
        (if squeezes then "Two strings must be given when both deleting and squeezing repeats."
          else "Two strings must be given when translating.")
    else if o.operands.length > most then
      explain ("extra operand ".toList ++ quotes ((o.operands[most]?).getD []))
        (if o.operands.length = 2 then "Only one string may be given when deleting without squeezing repeats." else "")
    else match (o.operands.mapM SetPart.parse : Except SetFault (List (List SetPart))) with
      | .error e => refuse e.text
      | .ok sets => do
          let first := sets.headD []
          let second := sets[1]?
          let given := SetPart.expandAll 0 first
          let one := if complements then
              let inside := memberTable given
              ((List.range 256).filter fun i => !((inside[i]?).getD false)).map Char.ofNat
            else given
          let translates := second.isSome && !deletes
          let fixed := (second.map (SetPart.expandAll 0)).getD []
          let two := (second.map (SetPart.expandAll (one.length - fixed.length))).getD []
          let classes := (second.getD []).filterMap fun
            | .named name => some name
            | _ => none
          if first.any fun | .again _ 0 => true | _ => false then
            refuse "the [c*] repeat construct may not appear in string1".toList
          else if translates && classes.any fun name => name != "upper".toList && name != "lower".toList then
            refuse "when translating, the only character classes that may appear in\nstring2 are 'upper' and 'lower'".toList
          else if translates && !complements &&
              !((SetPart.caseClasses 0 (second.getD [])).all (SetPart.caseClasses 0 first).contains) then
            refuse "misaligned [:upper:] and/or [:lower:] construct".toList
          else if translates && two.isEmpty && !o.has "t" && !one.isEmpty then
            refuse "when not truncating set1, string2 must be non-empty".toList
          else do
            let padded := if o.has "t" then two
              else two ++ List.replicate (one.length - two.length) (two.getLastD ' ')
            let table := tableOf (one.zip padded)
            let inOne := memberTable one
            let inLast := memberTable (if second.isSome then two else one)
            let holds := fun (t : Array Bool) (c : Char) => (t[c.toNat]?).getD false
            filterBytes who [] fun text =>
              let text := if deletes then text.filter fun c => !holds inOne c
                else if translates then text.map fun c => (table[c.toNat]?).getD c
                else text
              if squeezes then squeeze (holds inLast) none [] text else text

end LintBridge.Shell.Program
