import LintBridge.Text.Utf8

namespace LintBridge.Text.Control

inductive Mode where
  | ground
  | escape
  | escapeMiddle
  | sequenceStart
  | sequenceNumbers
  | sequenceMiddle
  | sequenceIgnored
  | deviceStart
  | deviceNumbers
  | deviceMiddle
  | deviceIgnored
  | deviceBody
  | command
  | message
  deriving DecidableEq, Repr

def isBetween (low high b : Nat) : Bool := low ≤ b && b ≤ high

/-- The mode after a byte. Some bytes end or begin a sequence anywhere. -/
def Mode.next (m : Mode) (b : Nat) : Mode :=
  if b = 0x18 ∨ b = 0x1A then .ground
  else if b = 0x1B then .escape
  else match m with
    | .ground => .ground
    | .escape =>
        if b = 0x5B then .sequenceStart
        else if b = 0x5D then .command
        else if b = 0x50 then .deviceStart
        else if b = 0x58 ∨ b = 0x5E ∨ b = 0x5F then .message
        else if isBetween 0x20 0x2F b then .escapeMiddle
        else if isBetween 0x30 0x7E b then .ground
        else m
    | .escapeMiddle => if isBetween 0x30 0x7E b then .ground else m
    | .sequenceStart =>
        if isBetween 0x20 0x2F b then .sequenceMiddle
        else if isBetween 0x30 0x3F b then .sequenceNumbers
        else if isBetween 0x40 0x7E b then .ground
        else m
    | .sequenceNumbers =>
        if isBetween 0x20 0x2F b then .sequenceMiddle
        else if isBetween 0x3C 0x3F b then .sequenceIgnored
        else if isBetween 0x40 0x7E b then .ground
        else m
    | .sequenceMiddle =>
        if isBetween 0x30 0x3F b then .sequenceIgnored else if isBetween 0x40 0x7E b then .ground else m
    | .sequenceIgnored => if isBetween 0x40 0x7E b then .ground else m
    | .deviceStart =>
        if isBetween 0x20 0x2F b then .deviceMiddle
        else if b = 0x3A then .deviceIgnored
        else if isBetween 0x30 0x3F b then .deviceNumbers
        else if isBetween 0x40 0x7E b then .deviceBody
        else m
    | .deviceNumbers =>
        if isBetween 0x20 0x2F b then .deviceMiddle
        else if b = 0x3A ∨ isBetween 0x3C 0x3F b then .deviceIgnored
        else if isBetween 0x40 0x7E b then .deviceBody
        else m
    | .deviceMiddle =>
        if isBetween 0x30 0x3F b then .deviceIgnored else if isBetween 0x40 0x7E b then .deviceBody else m
    | .deviceIgnored => if b = 0x9C then .ground else m
    | .deviceBody => if b = 0x9C then .ground else m
    | .command => if b = 0x07 then .ground else m
    | .message => if b = 0x9C then .ground else m

def tail (b : Nat) : Nat :=
  if isBetween 0xC2 0xDF b then 1 else if isBetween 0xE0 0xEF b then 2 else if isBetween 0xF0 0xF4 b then 3 else 0

/-- Whether a byte is shown: the visible ones outside all sequences, and white space also within those that a
terminal goes on to obey. -/
def Mode.shows (m : Mode) (b : Nat) : Bool :=
  let blank := b == 0x09 || b == 0x0A || b == 0x0C || b == 0x0D
  match m with
  | .ground => blank || isBetween 0x20 0x7E b || tail b != 0
  | .escape => blank
  | .escapeMiddle => blank
  | .sequenceStart => blank
  | .sequenceNumbers => blank
  | .sequenceMiddle => blank
  | .sequenceIgnored => blank
  | _ => false

structure Progress where
  mode : Mode := .ground
  showing : Bool := false
  owed : Nat := 0

def Progress.step (p : Progress) (b : Nat) : Progress × Bool :=
  if p.owed ≠ 0 then ({ p with owed := p.owed - 1 }, true)
  else if p.showing && Mode.ground.shows b then
    ({ p with owed := tail b, mode := if tail b ≠ 0 then .ground else p.mode }, true)
  else if p.mode.shows b then ({ p with showing := true, owed := tail b }, true)
  else ({ mode := p.mode.next b }, false)

def shownBytes : Progress → Bytes → Bytes
  | _, [] => []
  | p, b :: bs =>
      let (p, shown) := p.step b.toNat
      if shown then b :: shownBytes p bs else shownBytes p bs

def shown (s : String) : String := textOf (shownBytes {} (bytesOf s))

end LintBridge.Text.Control
