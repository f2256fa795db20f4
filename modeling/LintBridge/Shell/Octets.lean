import LintBridge.Text.Utf8

namespace LintBridge.Shell

/-- A byte string, each byte as the character with its number. -/
abbrev Octets := List Char

instance : Hashable Octets := ⟨fun cs => cs.foldl (fun h c => mixHash h c.toNat.toUInt64) 7⟩

namespace Octets

def ofBytes (bs : Bytes) : Octets := bs.map fun b => Char.ofNat b.toNat

def toBytes (o : Octets) : Bytes := o.map fun c => c.toNat.toUInt8

def ofString (s : String) : Octets := ofBytes (bytesOf s)

/-- The items of a text that each end in a character, with whether they did; the item that is being read and those
before it come with their last parts first. -/
def itemsFrom (ending : Char) : Octets → List (Octets × Bool) → Octets → List (Octets × Bool)
  | [], items, [] => items.reverse
  | item, items, [] => ((item.reverse, false) :: items).reverse
  | item, items, c :: cs =>
      if c = ending then itemsFrom ending [] ((item.reverse, true) :: items) cs
      else itemsFrom ending (c :: item) items cs

def itemsEnding (ending : Char) (o : Octets) : List (Octets × Bool) := itemsFrom ending [] [] o

def lines (o : Octets) : List (Octets × Bool) := itemsEnding '\n' o

def unlines (ls : List Octets) : Octets := ls.flatMap (· ++ ['\n'])

def splitFrom (p : Char → Bool) : Octets → List Octets → Octets → List Octets
  | part, parts, [] => (part.reverse :: parts).reverse
  | part, parts, c :: cs =>
      if p c then splitFrom p [] (part.reverse :: parts) cs else splitFrom p (c :: part) parts cs

def splitOn (p : Char → Bool) (o : Octets) : List Octets := splitFrom p [] [] o

def fields (o : Octets) : List Octets :=
  (splitOn (fun c => c = ' ' || c = '\t' || c = '\n') o).filter (!·.isEmpty)

def isName1 (c : Char) : Bool := c.isAlpha || c = '_'
def isName2 (c : Char) : Bool := c.isAlphanum || c = '_'

def isName : Octets → Bool
  | [] => false
  | c :: cs => isName1 c && cs.all isName2

def digitsValue (o : Octets) : Nat := o.foldl (fun n c => n * 10 + (c.toNat - '0'.toNat)) 0

def nat? (o : Octets) : Option Nat :=
  if !o.isEmpty && o.all Char.isDigit then some (digitsValue o) else none

def int? : Octets → Option Int
  | '-' :: cs => (nat? cs).map fun n => -(n : Int)
  | '+' :: cs => (nat? cs).map fun n => (n : Int)
  | cs => (nat? cs).map fun n => (n : Int)

def ofNat (n : Nat) : Octets := (toString n).toList

def ofInt (n : Int) : Octets := (toString n).toList

def trimBlanks (o : Octets) : Octets :=
  let blank := fun c : Char => c = ' ' || c = '\t' || c = '\n'
  (((o.dropWhile blank).reverse).dropWhile blank).reverse

def padLeft (width : Nat) (fill : Char) (o : Octets) : Octets :=
  List.replicate (width - o.length) fill ++ o

def padRight (width : Nat) (fill : Char) (o : Octets) : Octets :=
  o ++ List.replicate (width - o.length) fill

def le : Octets → Octets → Bool
  | [], _ => true
  | _ :: _, [] => false
  | a :: as, b :: bs => if a = b then le as bs else a < b

end Octets

end LintBridge.Shell
