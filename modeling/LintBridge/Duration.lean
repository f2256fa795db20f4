namespace LintBridge

structure Duration where
  nanos : Nat
  deriving DecidableEq, Repr

namespace Duration

def ofMillis (ms : Nat) : Duration := ⟨ms * 1000000⟩

def fractionDigits (part width : Nat) : List Char :=
  let ds := Nat.toDigits 10 part
  let padded := List.replicate (width - ds.length) '0' ++ ds
  (padded.reverse.dropWhile (· == '0')).reverse

def decimal (n width : Nat) : String :=
  let whole := toString (n / Nat.pow 10 width)
  match fractionDigits (n % Nat.pow 10 width) width with
  | [] => whole
  | ds => whole ++ "." ++ String.ofList ds

/-- The largest of the units s, ms, µs and ns in which the span is at least one. -/
def text (d : Duration) : String :=
  if 1000000000 ≤ d.nanos then decimal d.nanos 9 ++ "s"
  else if 1000000 ≤ d.nanos then decimal d.nanos 6 ++ "ms"
  else if 1000 ≤ d.nanos then decimal d.nanos 3 ++ "µs"
  else toString d.nanos ++ "ns"

end Duration

end LintBridge
