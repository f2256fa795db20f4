import LintBridge.Shell.Pattern

namespace LintBridge.Shell

inductive Regex where
  | empty
  | set (s : CharSet)
  | seq (a b : Regex)
  | alt (a b : Regex)
  | rep (low : Nat) (high : Option Nat) (greedy : Bool) (a : Regex)
  | group (n : Nat) (a : Regex)
  | back (n : Nat)
  | lineStart
  | lineEnd
  | textStart
  | textEnd
  | wordStart
  | wordEnd
  | wordEdge (wanted : Bool)
  | ahead (wanted : Bool) (a : Regex)
  | behind (wanted : Bool) (a : Regex)
  | cut
  deriving DecidableEq, Repr

namespace Regex

def anyChar : Regex := .set ⟨true, []⟩

def single (c : Char) : Regex := .set ⟨false, [(c, c)]⟩

def literal (cs : Octets) : Regex := cs.foldl (fun r c => .seq r (single c)) .empty

def groupCount : Regex → Nat
  | .seq a b => max a.groupCount b.groupCount
  | .alt a b => max a.groupCount b.groupCount
  | .rep _ _ _ a => a.groupCount
  | .group n a => max n a.groupCount
  | .ahead _ a => a.groupCount
  | .behind _ a => a.groupCount
  | _ => 0

def remembers : Regex → Bool
  | .seq a b => a.remembers || b.remembers
  | .alt a b => a.remembers || b.remembers
  | .rep _ _ _ a => a.remembers
  | .group _ a => a.remembers
  | .ahead _ a => a.remembers
  | .behind _ a => a.remembers
  | .back _ => true
  | .cut => true
  | _ => false

inductive Idle where
  | literal
  | ignored
  | refused
  deriving DecidableEq, Repr

inductive Bounds where
  | strict
  | lenient
  | absent
  deriving DecidableEq, Repr

inductive Escapes where
  | classes
  | controls
  /-- Only characters that are hard to write, in brackets too. -/
  | strings
  | many
  deriving DecidableEq, Repr

structure Style where
  extended : Bool
  idle : Idle
  idleBounds : Idle
  looseClose : Bool
  bounds : Bounds
  escapes : Escapes
  emptyBranches : Bool
  deriving DecidableEq, Repr

namespace Style

def basic : Style := ⟨false, .literal, .literal, false, .strict, .classes, true⟩
def extendedSearch : Style := ⟨true, .ignored, .ignored, true, .lenient, .classes, true⟩
def editing : Style := ⟨false, .literal, .refused, false, .strict, .controls, true⟩
def extendedEditing : Style := ⟨true, .refused, .refused, false, .strict, .controls, true⟩
def awk : Style := ⟨true, .refused, .literal, true, .absent, .strings, false⟩
def perl : Style := ⟨true, .refused, .literal, false, .lenient, .many, true⟩

end Style

inductive Fault where
  | lastBracket
  | openBracket
  | openGroup
  | closedGroup
  | openBounds
  | badBounds
  | tooBig
  | nothingRepeated
  | noSuchGroup
  | lastBackslash
  | className
  | looseClass
  | range
  | collation
  deriving DecidableEq, Repr

def Fault.message : Fault → String
  | .lastBracket => "Invalid regular expression"
  | .openBracket => "Unmatched [, [^, [:, [., or [="
  | .openGroup => "Unmatched ( or \\("
  | .closedGroup => "Unmatched ) or \\)"
  | .openBounds => "Unmatched \\\x7b"
  | .badBounds => "Invalid content of \\\x7b\\\x7d"
  | .tooBig => "Regular expression too big"
  | .nothingRepeated => "Invalid preceding regular expression"
  | .noSuchGroup => "Invalid back reference"
  | .lastBackslash => "Trailing backslash"
  | .className => "Invalid character class name"
  | .looseClass => "character class syntax is [[:space:]], not [:space:]"
  | .range => "Invalid range end"
  | .collation => "Invalid collation character"

end Regex

end LintBridge.Shell
