import LintBridge.Shell.Program.Input
import LintBridge.Shell.Format

namespace LintBridge.Shell.Program

open Exec

structure Alphabet where
  letters : Array Char
  bits : Nat
  groupBytes : Nat
  groupLetters : Nat
  lenient : Bool

namespace Alphabet

def base64 : Alphabet :=
  ⟨"ABCDEFGHIJKLMNOPQRSTUVWXYZabcdefghijklmnopqrstuvwxyz0123456789+/".toList.toArray, 6, 3, 4, true⟩
def base64url : Alphabet :=
  ⟨"ABCDEFGHIJKLMNOPQRSTUVWXYZabcdefghijklmnopqrstuvwxyz0123456789-_".toList.toArray, 6, 3, 4, true⟩
def base32 : Alphabet := ⟨"ABCDEFGHIJKLMNOPQRSTUVWXYZ234567".toList.toArray, 5, 5, 8, false⟩
def base32hex : Alphabet := ⟨"0123456789ABCDEFGHIJKLMNOPQRSTUV".toList.toArray, 5, 5, 8, false⟩
def base16 : Alphabet := ⟨"0123456789ABCDEF".toList.toArray, 4, 1, 2, false⟩
def base2 : Alphabet := ⟨#['0', '1'], 1, 1, 8, false⟩

def encodeGroup (a : Alphabet) (group : Octets) : Octets :=
  let used := (group.length * 8 + a.bits - 1) / a.bits
  let value := group.foldl (fun n c => n * 256 + c.toNat) 0 * Nat.pow 256 (a.groupBytes - group.length)
  (List.range a.groupLetters).map fun i =>
    if i < used then
      (a.letters[value / Nat.pow 2 (a.bits * (a.groupLetters - 1 - i)) % Nat.pow 2 a.bits]?).getD '='
    else '='

def groups (size : Nat) : Nat → Octets → List Octets → List Octets
  | 0, _, done => done.reverse
  | _, [], done => done.reverse
  | n + 1, cs, done => groups size n (cs.drop size) (cs.take size :: done)

def cut (size : Nat) (cs : Octets) : List Octets := groups size (cs.length / size + 1) cs []

def encode (a : Alphabet) (text : Octets) : Octets := (cut a.groupBytes text).flatMap a.encodeGroup

def decodeGroup (a : Alphabet) (group : Octets) : Octets × Bool :=
  let letters := group.takeWhile (· ≠ '=')
  let values := letters.map fun c => a.letters.findIdx? (· = c)
  let good := (values.takeWhile Option.isSome).filterMap id
  let count := good.length * a.bits / 8
  let value := good.foldl (fun n v => n * Nat.pow 2 a.bits + v) 0 * Nat.pow 2 (a.bits * (a.groupLetters - good.length))
  let bytes := (List.range count).map fun i => Char.ofNat (value / Nat.pow 256 (a.groupBytes - 1 - i) % 256)
  let rest := group.drop letters.length
  let needed := (count * 8 + a.bits - 1) / a.bits
  let whole := group.length = a.groupLetters && values.all Option.isSome && rest.all (· = '=') &&
    !letters.isEmpty && needed = letters.length
  (if whole || a.lenient then bytes else [], whole)

def decodeGroups (a : Alphabet) : List Octets → Octets × Bool
  | [] => ([], true)
  | g :: gs =>
      match a.decodeGroup g with
      | (bytes, true) =>
          let (more, good) := decodeGroups a gs
          (bytes ++ more, good)
      | (bytes, false) => (bytes, false)

def decode (a : Alphabet) (ignoreOthers : Bool) (text : Octets) : Octets × Bool :=
  let text := text.filter (· ≠ '\n')
  let text := if ignoreOthers then text.filter fun c => c = '=' || a.letters.contains c else text
  a.decodeGroups (cut a.groupLetters text)

end Alphabet

def encodeWith (a : Alphabet) (o : Options) (who : Octets) : Exec Nat := do
  let width := match o.value? "w" with
    | some w => Octets.nat? w
    | none => some 76
  match o.operands, width with
  | _ :: extra :: _, _ => misuse who 1 ("extra operand ".toList ++ quotes extra)
  | _, none => do
      complain who ("invalid wrap size: ".toList ++ quotes ((o.value? "w").getD []))
      return 1
  | operands, some width => do
      let path := operands.headD ['-']
      match ← readOperand path with
      | .error e => do
          complain who (blamePath path e)
          return 1
      | .ok text =>
          if o.has "d" then do
            let (out, good) := a.decode (o.has "i") text
            write 1 out
            if good then return 0
            complain who "invalid input".toList
            return 1
          else do
            let out := a.encode text
            write 1 (if width = 0 then out else (Alphabet.cut width out).flatMap (· ++ ['\n']))
            return 0

def baseWords : List (String × String) := [("decode", "d"), ("ignore-garbage", "i"), ("wrap=", "w")]

def base64 (who : Octets) (args : List Octets) : Exec Nat :=
  withOptions who 1 "diw:" baseWords args fun o => encodeWith .base64 o who

def base32 (who : Octets) (args : List Octets) : Exec Nat :=
  withOptions who 1 "diw:" baseWords args fun o => encodeWith .base32 o who

def basenc (who : Octets) (args : List Octets) : Exec Nat :=
  withOptions who 1 "diw:" (baseWords ++ [("base64", "64"), ("base64url", "64url"), ("base32", "32"), ("base32hex", "32hex"),
    ("base16", "16"), ("base2msbf", "2msbf")]) args fun o => do
    let kind := (o.given.filter fun g => g.1.length > 1).getLast?.map (·.1)
    match kind with
    | some "64" => encodeWith .base64 o who
    | some "64url" => encodeWith .base64url o who
    | some "32" => encodeWith .base32 o who
    | some "32hex" => encodeWith .base32hex o who
    | some "16" => encodeWith .base16 o who
    | some "2msbf" => encodeWith .base2 o who
    | _ => misuse who 1 "missing encoding type".toList

inductive DumpKind where
  | name
  | char
  | number (letter : Char) (size : Nat)
  | real (size : Nat)
  deriving DecidableEq, Repr

structure DumpType where
  kind : DumpKind
  text : Bool := false
  deriving DecidableEq, Repr

namespace DumpType

def size (t : DumpType) : Nat :=
  match t.kind with
  | .number _ n => n
  | .real n => n
  | _ => 1

def width (t : DumpType) : Nat :=
  match t.kind with
  | .number 'x' n => 2 * n
  | .number 'o' n => if n = 1 then 3 else if n = 2 then 6 else if n = 4 then 11 else 22
  | .number 'd' n => if n = 1 then 4 else if n = 2 then 6 else if n = 4 then 11 else 20
  | .number _ n => if n = 1 then 3 else if n = 2 then 5 else if n = 4 then 10 else 20
  | .real n => if n = 4 then 15 else 24
  | _ => 3

def controlNames : List String := ["nul", "soh", "stx", "etx", "eot", "enq", "ack", "bel", "bs", "ht", "nl", "vt", "ff",
  "cr", "so", "si", "dle", "dc1", "dc2", "dc3", "dc4", "nak", "syn", "etb", "can", "em", "sub", "esc", "fs", "gs", "rs",
  "us", "sp"]

def charText (c : Char) : Octets :=
  match c with
  | '\x00' => ['\\', '0']
  | '\x07' => ['\\', 'a']
  | '\x08' => ['\\', 'b']
  | '\t' => ['\\', 't']
  | '\n' => ['\\', 'n']
  | '\x0b' => ['\\', 'v']
  | '\x0c' => ['\\', 'f']
  | '\x0d' => ['\\', 'r']
  | c => if ' ' ≤ c && c ≤ '~' then [c] else Octets.padLeft 3 '0' (Nat.toDigits 8 c.toNat)

def realOf (size n : Nat) : Float := if size = 4 then (Float32.ofBits n.toUInt32).toFloat else Float.ofBits n.toUInt64

def sameReal (size : Nat) (x y : Float) : Bool := if size = 4 then x.toFloat32 == y.toFloat32 else x == y

/-- A real number with as few digits as it is known by; small ones may have fewer than others. -/
def realText (size : Nat) (x : Float) : Octets :=
  let (usual, most, least) : Nat × Nat × Float := if size = 4 then (6, 9, 1.1754943508222875e-38) else (15, 17, 2.2250738585072014e-308)
  let first := if x.abs < least then 1 else usual
  let shown := fun (digits : Nat) => Format.real { precision := some digits } 'g' x
  let counts := (List.range (most + 1)).drop first
  shown ((counts.find? fun digits => sameReal size (Real.ofText (shown digits)) x).getD most)

def value (t : DumpType) (bytes : Octets) : Octets :=
  let n := bytes.reverse.foldl (fun n c => n * 256 + c.toNat) 0
  match t.kind with
  | .name =>
      let low := n % 128
      match controlNames[low]? with
      | some name => name.toList
      | none => if low = 127 then "del".toList else [Char.ofNat low]
  | .char => charText (bytes.headD '\x00')
  | .number 'x' size => Octets.padLeft (2 * size) '0' (Nat.toDigits 16 n)
  | .number 'o' _ => Octets.padLeft t.width '0' (Nat.toDigits 8 n)
  | .number 'd' size =>
      let whole := Nat.pow 256 size
      Octets.ofInt (if 2 * n < whole then (n : Int) else (n : Int) - whole)
  | .number _ _ => Octets.ofNat n
  | .real size => realText size (realOf size n)

def fields (t : DumpType) (count padding : Nat) : Nat → Nat → List Octets → Octets
  | _, _, [] => []
  | 0, _, _ => []
  | i + 1, left, bytes :: more =>
      let next := padding * i / count
      Octets.padLeft (left - next + t.width) ' ' (t.value bytes) ++ t.fields count padding i next more

def read : Nat → Octets → Option (List DumpType)
  | 0, _ => some []
  | _, [] => some []
  | n + 1, c :: cs =>
      let (kind, rest) : Option DumpKind × Octets :=
        if c = 'a' then (some .name, cs)
        else if c = 'c' then (some .char, cs)
        else if c = 'd' || c = 'o' || c = 'u' || c = 'x' then
          match cs with
          | 'C' :: rest => (some (.number c 1), rest)
          | 'S' :: rest => (some (.number c 2), rest)
          | 'I' :: rest => (some (.number c 4), rest)
          | 'L' :: rest => (some (.number c 8), rest)
          | cs =>
              let ds := cs.takeWhile Char.isDigit
              if ds.isEmpty then (some (.number c 4), cs)
              else
                let size := Octets.digitsValue ds
                (if [1, 2, 4, 8].contains size then some (.number c size) else none, cs.drop ds.length)
        else if c = 'f' then
          match cs with
          | 'F' :: rest => (some (.real 4), rest)
          | '4' :: rest => (some (.real 4), rest)
          | 'D' :: rest => (some (.real 8), rest)
          | '8' :: rest => (some (.real 8), rest)
          | rest => (some (.real 8), rest)
        else (none, cs)
      match kind with
      | none => none
      | some kind =>
          match rest with
          | 'z' :: rest => (read n rest).map (⟨kind, true⟩ :: ·)
          | rest => (read n rest).map (⟨kind, false⟩ :: ·)

def ofLetter? : String → Option DumpType
  | "a" => some ⟨.name, false⟩
  | "b" => some ⟨.number 'o' 1, false⟩
  | "c" => some ⟨.char, false⟩
  | "d" => some ⟨.number 'u' 2, false⟩
  | "e" => some ⟨.real 8, false⟩
  | "f" => some ⟨.real 4, false⟩
  | "h" => some ⟨.number 'x' 2, false⟩
  | "H" => some ⟨.number 'x' 4, false⟩
  | "i" => some ⟨.number 'd' 4, false⟩
  | "l" => some ⟨.number 'd' 8, false⟩
  | "o" => some ⟨.number 'o' 2, false⟩
  | "O" => some ⟨.number 'o' 4, false⟩
  | "s" => some ⟨.number 'd' 2, false⟩
  | "x" => some ⟨.number 'x' 2, false⟩
  | _ => none

end DumpType

structure Dump where
  types : List DumpType
  block : Nat
  base : Option (Nat × Nat)
  whole : Bool

namespace Dump

def address (d : Dump) (n : Nat) : Octets :=
  match d.base with
  | some (base, digits) => Octets.padLeft digits '0' (Nat.toDigits base n)
  | none => []

def blockText (d : Dump) (addressOf : Nat) (bytes : Octets) : Octets :=
  let full := d.types.foldl (fun most t => max most ((t.width + 1) * (d.block / t.size))) 0
  let lines := d.types.zipIdx.map fun (t, i) =>
    let count := d.block / t.size
    let padding := full - t.width * count
    let missing := (d.block - bytes.length) / t.size
    let filled := bytes ++ List.replicate ((t.size - bytes.length % t.size) % t.size) '\x00'
    let lead := if i = 0 then d.address addressOf else List.replicate (d.address addressOf).length ' '
    let values := t.fields count padding count padding (Alphabet.cut t.size filled)
    let trailer := if t.text then
        List.replicate (missing * t.width + padding * missing / count) ' ' ++ "  >".toList ++
          (bytes.map fun c => if ' ' ≤ c && c ≤ '~' then c else '.') ++ ['<']
      else []
    lead ++ values ++ trailer ++ ['\n']
  lines.flatten

/-- The lines of all blocks; of equal ones after each other only the first is shown. -/
def blocks (d : Dump) : Nat → Option Octets → Bool → List Octets → List Octets → List Octets
  | _, _, _, out, [] => out.reverse
  | n, last, starred, out, b :: bs =>
      if !d.whole && last = some b && b.length = d.block then
        d.blocks (n + b.length) last true (if starred then out else ['*', '\n'] :: out) bs
      else d.blocks (n + b.length) (some b) false (d.blockText n b :: out) bs

end Dump

def offset? (cs : Octets) : Option Nat :=
  match cs with
  | '0' :: 'x' :: ds => if ds.all (fun c => (Format.hex? c).isSome) && !ds.isEmpty then
      some (ds.foldl (fun n c => n * 16 + (Format.hex? c).getD 0) 0) else none
  | '0' :: d :: ds =>
      if (d :: ds).all fun c => (Format.octal? c).isSome then
        some ((d :: ds).foldl (fun n c => n * 8 + (Format.octal? c).getD 0) 0) else none
  | cs => size? cs

def od (who : Octets) (args : List Octets) : Exec Nat :=
  withOptions who 1 "A:abcdDefhHiIj:lLN:oOS:st:vw::xX" [("address-radix=", "A"), ("skip-bytes=", "j"), ("read-bytes=", "N"),
    ("format=", "t"), ("output-duplicates", "v"), ("width=?", "w"), ("strings=?", "S"), ("traditional", "traditional")] args fun o => do
    let refuse := fun (text : Octets) => do
      complain who text
      return 1
    let given := o.given.filterMap fun (key, value) =>
      if key == "t" then some (value, DumpType.read (value.length + 1) value)
      else (DumpType.ofLetter? key).map fun t => (value, some [t])
    match given.find? (·.2.isNone) with
    | some (text, _) =>
        let bad := (text.filter fun c => !("acdfouxCDFSILz".toList.contains c || c.isDigit)).headD (text.headD ' ')
        refuse ("invalid character ".toList ++ quotes [bad] ++ " in type string ".toList ++ quotes text)
    | none =>
    let types := given.flatMap fun g => g.2.getD []
    let types := if types.isEmpty then [⟨.number 'o' 2, false⟩] else types
    let radix := (o.value? "A").getD ['o']
    let base := match radix.head? with
      | some 'o' => some (some (8, 7))
      | some 'd' => some (some (10, 7))
      | some 'x' => some (some (16, 6))
      | some 'n' => some none
      | _ => none
    match base with
    | none => refuse ("invalid output address radix ".toList ++ quotes radix ++ "; it must be one character from [doxn]".toList)
    | some base => do
    let skip := ((o.value? "j").bind offset?).getD 0
    let limit := (o.value? "N").bind offset?
    let width := match o.value? "w" with
      | some [] => 32
      | some w => (Octets.nat? w).getD 16
      | none => 16
    let read : Exec (Octets × Bool) := match limit, sources o.operands with
      | some n, [path] => do
          match ← openOperand path with
          | .error e => do
              complain who (blamePath path e)
              return ([], false)
          | .ok id => do
              match ← withFd 0 id (readSome 0 (skip + n)) with
              | .ok text => return (text, true)
              | .error e => do
                  complain who (blamePath path e)
                  return ([], false)
      | _, paths => do
          let (texts, good) ← readOperands who blamePath paths
          return (texts.flatMap (·.2), good)
    let (all, good) ← read
    if !good && all.isEmpty then return 1
    if all.length < skip then refuse "cannot skip past end of combined input".toList
    else do
      let text := all.drop skip
      let text := match limit with
        | some n => text.take n
        | none => text
      let d : Dump := ⟨types, if width = 0 then 16 else width, base, o.has "v"⟩
      write 1 ((d.blocks skip none false [] (Alphabet.cut d.block text)).flatten)
      if d.base.isSome then write 1 (d.address (skip + text.length) ++ ['\n'])
      return if good then 0 else 1

end LintBridge.Shell.Program
