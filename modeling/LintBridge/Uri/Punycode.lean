namespace LintBridge.Uri.Punycode

def digit? (c : Char) : Option Nat :=
  let n := c.toNat
  if 97 ≤ n ∧ n ≤ 122 then some (n - 97) else if 48 ≤ n ∧ n ≤ 57 then some (n - 22) else none

def threshold (place bias : Nat) : Nat :=
  if place ≤ bias then 1 else if bias + 26 ≤ place then 26 else place - bias

def settle (delta k : Nat) : Nat :=
  if 455 < delta then settle (delta / 35) (k + 36) else k + 36 * delta / (delta + 38)
termination_by delta
decreasing_by exact Nat.div_lt_self (by omega) (by omega)

def adapt (delta count : Nat) (first : Bool) : Nat :=
  let delta := if first then delta / 700 else delta / 2
  settle (delta + delta / count) 0

/-- One number from the front of a text, added to a start, and the rest of the text. The lowest digit comes first,
and a digit below the threshold of its place ends the number. -/
def readNumber (bias : Nat) : List Char → Nat → Nat → Nat → Option (Nat × List Char)
  | [], _, _, _ => none
  | c :: rest, place, weight, total => do
      let d ← digit? c
      let t := threshold place bias
      if d < t then return (total + d * weight, rest)
      else readNumber bias rest (place + 36) (weight * (36 - t)) (total + d * weight)

/-- The characters after those of some more numbers; there are at most as many numbers as digits. -/
def readNumbers : Nat → Bool → List Char → Nat → Nat → Nat → List Char → Option (List Char)
  | _, _, [], _, _, _, out => some out
  | 0, _, _ :: _, _, _, _, _ => none
  | fuel + 1, first, cs, code, index, bias, out => do
      let (total, rest) ← readNumber bias cs 36 1 index
      let count := out.length + 1
      let next := code + total / count
      let place := total % count
      guard (next ≤ 0x10FFFF ∧ ¬(0xD800 ≤ next ∧ next < 0xE000))
      readNumbers fuel false rest next (place + 1) (adapt (total - index) count first)
        (out.take place ++ Char.ofNat next :: out.drop place)

/-- The label that a spelling stands for. A hyphen at its start divides nothing. -/
def decode? (cs : List Char) : Option (List Char) :=
  let back := cs.reverse.takeWhile (· ≠ '-')
  let plain := cs.take (cs.length - back.length - 1)
  readNumbers cs.length true (if plain.isEmpty then cs else back.reverse) 128 0 72 plain

/-- Whether a label may stand in a host name: one that begins as such a spelling has to be the spelling of a
label with something outside ASCII. -/
def isFair (label : List Char) : Bool :=
  if ['x', 'n', '-', '-'].isPrefixOf label then
    match decode? (label.drop 4) with
    | some cs => cs.any fun c => 128 ≤ c.toNat
    | none => false
  else true

end LintBridge.Uri.Punycode
