import LintBridge.Text.Blank
import LintBridge.Uri.Percent
import LintBridge.Uri.Punycode

namespace LintBridge.Uri

inductive Fault where
  | noScheme
  | emptyHost
  | badName
  | badNameCharacter
  | badIpv4
  | badIpv6
  | badPort
  deriving DecidableEq, Repr

def Fault.message : Fault → String
  | .noScheme => "relative URL without a base"
  | .emptyHost => "empty host"
  | .badName => "invalid international domain name"
  | .badNameCharacter => "invalid domain character"
  | .badIpv4 => "invalid IPv4 address"
  | .badIpv6 => "invalid IPv6 address"
  | .badPort => "invalid port number"

inductive Host where
  | name (text : String)
  | ipv4 (address : Nat)
  | ipv6 (pieces : List Nat)
  deriving DecidableEq, Repr

namespace Host

def digitIn? (base : Nat) (c : Char) : Option Nat :=
  let n := c.toNat
  let d := if 48 ≤ n ∧ n ≤ 57 then n - 48
    else if 97 ≤ n ∧ n ≤ 102 then n - 87
    else if 65 ≤ n ∧ n ≤ 70 then n - 55
    else 16
  if d < base then some d else none

def numberIn? (base : Nat) (cs : List Char) : Option Nat :=
  cs.foldlM (fun n c => (digitIn? base c).map (base * n + ·)) 0

def ipv4Number? : List Char → Option Nat
  | [] => none
  | '0' :: x :: cs =>
      if x = 'x' ∨ x = 'X' then numberIn? 16 cs else numberIn? 8 (x :: cs)
  | cs => numberIn? 10 cs

def labels (cs : List Char) : List (List Char) :=
  let ls := Text.split '.' cs
  if ls.getLast? = some [] ∧ ls.length > 1 then ls.dropLast else ls

def endsInNumber (cs : List Char) : Bool :=
  match (labels cs).getLast? with
  | none => false
  | some last => (!last.isEmpty && last.all fun c => (digitIn? 10 c).isSome) || (ipv4Number? last).isSome

def ipv4? (cs : List Char) : Option Nat := do
  let parts := labels cs
  if parts.length > 4 then none
  let numbers ← parts.mapM ipv4Number?
  let last ← numbers.getLast?
  let front := numbers.dropLast
  if front.any (· > 255) || Nat.pow 256 (4 - front.length) ≤ last then none
  return front.zipIdx.foldl (fun total (n, i) => total + n * Nat.pow 256 (3 - i)) last

def embeddedIpv4? (cs : List Char) : Option (List Nat) := do
  let parts := Text.split '.' cs
  if parts.length ≠ 4 then none
  let numbers ← parts.mapM fun p =>
    if p.isEmpty || (p.length > 1 && p.head? == some '0') || p.length > 3 then none
    else (numberIn? 10 p).filter (· ≤ 255)
  match numbers with
  | [a, b, c, d] => return [a * 256 + b, c * 256 + d]
  | _ => none

def piece? (cs : List Char) : Option Nat :=
  if cs.isEmpty || cs.length > 4 then none else numberIn? 16 cs

/-- Pieces between colons; the last may be an embedded IPv4 address. -/
def pieces? : List (List Char) → Option (List Nat)
  | [] => some []
  | [p] => if p.contains '.' then embeddedIpv4? p else (piece? p).map ([·])
  | p :: ps => do return (← piece? p) :: (← pieces? ps)

def cutDoubleColon : List Char → List Char × Option (List Char)
  | ':' :: ':' :: rest => ([], some rest)
  | c :: rest => let (a, b) := cutDoubleColon rest; (c :: a, b)
  | [] => ([], none)

def ipv6? (cs : List Char) : Option (List Nat) := do
  let pieces (t : List Char) : Option (List Nat) :=
    if t.isEmpty then some [] else pieces? (Text.split ':' t)
  match cutDoubleColon cs with
  | (front, none) =>
      let ps ← pieces front
      if ps.length = 8 then return ps else none
  | (front, some back) =>
      if front.contains '.' then none
      let a ← pieces front
      let b ← pieces back
      if a.length + b.length ≤ 7 then
        return a ++ List.replicate (8 - a.length - b.length) 0 ++ b
      else none

def isForbidden (c : Char) : Bool :=
  c.toNat ≤ 0x20 || c.toNat == 0x7F || "%#/:<>?@[\\]^|".toList.contains c

def isForbiddenPlain (c : Char) : Bool :=
  c.toNat == 0 || "\t\n\r #/:<>?@[\\]^|".toList.contains c

def lower (c : Char) : Char := if 'A' ≤ c ∧ c ≤ 'Z' then Char.ofNat (c.toNat + 32) else c

def bracketed? : List Char → Option (List Char)
  | '[' :: cs => if cs.getLast? = some ']' then some cs.dropLast else none
  | _ => none

def readBracketed (cs : List Char) : Except Fault Host :=
  match (bracketed? cs).bind ipv6? with
  | some ps => .ok (.ipv6 ps)
  | none => .error .badIpv6

/-- The host of a scheme that the web knows: escapes are resolved, letters made small, and a name that ends in a
number is an address. This covers names of ASCII characters. A character outside ASCII, written as it is, escaped or
spelled in a label, is taken as it stands: the tables that map, compose and refuse such characters are left out. -/
def readSpecial (cs : List Char) : Except Fault Host :=
  if cs.head? = some '[' then readBracketed cs
  else match Utf8.decode? (unescape (Utf8.encode cs)) with
    | none => .error .badName
    | some ds =>
        let ds := ds.map lower
        if ds.any isForbidden || !(Text.split '.' ds).all Punycode.isFair then .error .badName
        else if ds.isEmpty then .error .emptyHost
        else if endsInNumber ds then
          match ipv4? ds with
          | some n => .ok (.ipv4 n)
          | none => .error .badIpv4
        else .ok (.name (String.ofList ds))

def readPlain (cs : List Char) : Except Fault Host :=
  if cs.head? = some '[' then readBracketed cs
  else if cs.any isForbiddenPlain then .error .badNameCharacter
  else .ok (.name (String.ofList (escape isUnsafeAnywhere cs)))

def hex (n : Nat) : String := String.ofList (Nat.toDigits 16 n)

/-- The longest run of zeros, the first of several, as start and length. -/
def longestZeros (ps : List Nat) : Nat × Nat :=
  let runs := ps.zipIdx.map fun (_, i) => (i, ((ps.drop i).takeWhile (· == 0)).length)
  runs.foldl (fun best r => if best.2 < r.2 then r else best) (0, 0)

def ipv6Text (ps : List Nat) : String :=
  let (start, len) := longestZeros ps
  if len < 2 then ":".intercalate (ps.map hex)
  else ":".intercalate ((ps.take start).map hex) ++ "::" ++
    ":".intercalate ((ps.drop (start + len)).map hex)

def text : Host → String
  | .name t => t
  | .ipv4 n => ".".intercalate ([n / 16777216, n / 65536 % 256, n / 256 % 256, n % 256].map toString)
  | .ipv6 ps => "[" ++ ipv6Text ps ++ "]"

end Host

end LintBridge.Uri
