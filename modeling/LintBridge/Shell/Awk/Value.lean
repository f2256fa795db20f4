import LintBridge.Shell.Format

namespace LintBridge.Shell.Awk

inductive Value where
  | num (x : Float)
  | str (cs : Octets)
  /-- Text from outside, which counts as a number if it looks like one. -/
  | input (cs : Octets)
  | unset

instance : Inhabited Value := ⟨.unset⟩

def largestWhole : Float := 2147483647

def whole? (x : Float) : Option Int :=
  if x.abs ≤ largestWhole && x.floor == x then some x.toInt64.toInt else none

def truncated (x : Float) : Int := if x.isNaN then 0 else x.toInt64.toInt

def realText (s : Format.Spec) (letter : Char) (x : Float) : Octets :=
  if x.isNaN then
    let word := if letter.isUpper then "-NAN".toList else "-nan".toList
    Format.pad s word
  else Format.real s letter x

def usualFormat : Octets := "%.6g".toList

def numText (format : Octets) (x : Float) : Octets :=
  match whole? x with
  | some n => Octets.ofInt n
  | none =>
      if format == usualFormat then realText { precision := some 6 } 'g' x
      else
        let front := format.takeWhile (· ≠ '%')
        match Format.readDirective (format.drop (front.length + 1)) with
        | none => format
        | some (d, rest) =>
            let spec : Format.Spec := {
              left := d.flags.contains '-', zero := d.flags.contains '0', plus := d.flags.contains '+',
              blank := d.flags.contains ' ', alternate := d.flags.contains '#', width := (d.width.getD none).getD 0,
              precision := d.precision.getD none }
            let text :=
              if ['d', 'i', 'o', 'x', 'X', 'u', 'c'].contains d.letter then Format.integer spec d.letter (truncated x)
              else if d.letter = 's' then realText { precision := some 6 } 'g' x
              else realText spec d.letter x
            front ++ text ++ rest

namespace Value

def toText (format : Octets) : Value → Octets
  | .num x => numText format x
  | .str cs => cs
  | .input cs => cs
  | .unset => []

def toNum : Value → Float
  | .num x => x
  | .str cs => Real.ofText cs
  | .input cs => Real.ofText cs
  | .unset => 0

def number? : Value → Option Float
  | .num x => some x
  | .str _ => none
  | .input cs => Real.whole? cs
  | .unset => some 0

def truth : Value → Bool
  | .num x => x != 0
  | .str cs => !cs.isEmpty
  | .input cs =>
      match Real.whole? cs with
      | some x => x != 0
      | none => !cs.isEmpty
  | .unset => false

def ofBool (b : Bool) : Value := .num (if b then 1 else 0)

def ofNat (n : Nat) : Value := .num n.toFloat

def ofInt (n : Int) : Value := .num (Float.ofInt n)

/-- The order of two values: as numbers if both are, else as texts. What was never set is an empty text beside a text. -/
def order (format : Octets) (a b : Value) : Ordering :=
  match a.number?, b.number? with
  | some x, some y => if x < y then .lt else if x == y then .eq else .gt
  | _, _ =>
      let s := a.toText format
      let t := b.toText format
      if s == t then .eq else if Octets.le s t then .lt else .gt

end Value

inductive FormatFault where
  | fewArguments
  | badDirective (number : Nat)
  deriving DecidableEq, Repr

def withoutSize (cs : Octets) : Octets :=
  let flags := cs.takeWhile fun c => Format.isFlag c || c.isDigit || c = '.' || c = '*'
  let rest := (cs.drop flags.length).dropWhile fun c => c = 'l' || c = 'h'
  flags ++ rest

def fillDirective (format : Octets) (spec : Format.Spec) (letter : Char) (v : Value) : Octets :=
  match letter with
  | 's' =>
      let text := v.toText format
      Format.pad spec (match spec.precision with
        | some k => text.take k
        | none => text)
  | 'c' =>
      let c := match v.number?, v with
        | _, .str cs => cs.headD '\x00'
        | some x, _ => Char.ofNat ((truncated x) % 256).toNat
        | none, .input cs => cs.headD '\x00'
        | none, _ => '\x00'
      Format.pad { spec with precision := none } [c]
  | letter =>
      if ['d', 'i', 'o', 'x', 'X', 'u'].contains letter then Format.integer spec letter (truncated v.toNum)
      else realText spec letter v.toNum

def formatFuel (format : Octets) : Nat → Nat → List Octets → Octets → List Value → List Octets × Option FormatFault
  | 0, _, out, _, _ => (out, none)
  | _, _, out, [], _ => (out, none)
  | n + 1, k, out, c :: cs, args =>
      if c ≠ '%' then
        let plain := cs.takeWhile (· ≠ '%')
        formatFuel format n k ((c :: plain) :: out) (cs.drop plain.length) args
      else match cs with
      | '%' :: cs => formatFuel format n k (['%'] :: out) cs args
      | cs =>
          match Format.readDirective (withoutSize cs) with
          | none => (['%'] :: out, none)
          | some (d, rest) =>
              let stars := (if d.width = some none then 1 else 0) + (if d.precision = some none then 1 else 0)
              if args.length < stars + 1 then (out, some .fewArguments)
              else
                let (width, args) := match d.width with
                  | some none => (truncated (args.headD .unset).toNum, args.tail)
                  | some (some w) => ((w : Int), args)
                  | none => (0, args)
                let (precision, args) := match d.precision with
                  | some none => (some (truncated (args.headD .unset).toNum).toNat, args.tail)
                  | some (some p) => (some p, args)
                  | none => (none, args)
                let spec : Format.Spec := {
                  left := d.flags.contains '-' || width < 0, zero := d.flags.contains '0', plus := d.flags.contains '+',
                  blank := d.flags.contains ' ', alternate := d.flags.contains '#', width := width.natAbs,
                  precision := precision }
                if "sdiouxXceEfFgGaA".toList.contains d.letter then
                  formatFuel format n (k + 1) (fillDirective format spec d.letter (args.headD .unset) :: out) rest args.tail
                else (out, some (.badDirective k))

def formatWith (conversion : Octets) (format : Octets) (args : List Value) : Octets × Option FormatFault :=
  let (out, fault) := formatFuel conversion (format.length + 1) 1 [] format args
  (out.reverse.flatten, fault)

end LintBridge.Shell.Awk
