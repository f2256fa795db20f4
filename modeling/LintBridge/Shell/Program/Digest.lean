import LintBridge.Shell.Program.Input

namespace LintBridge.Shell.Program

open Exec

namespace Digest

def blocks (size : Nat) : Nat → Bytes → List Bytes → List Bytes
  | 0, _, done => done.reverse
  | _, [], done => done.reverse
  | n + 1, bs, done => blocks size n (bs.drop size) (bs.take size :: done)

def littleBytes : Nat → Nat → Bytes
  | 0, _ => []
  | n + 1, x => (x % 256).toUInt8 :: littleBytes n (x / 256)

def bigBytes (n x : Nat) : Bytes := (littleBytes n x).reverse

def padded (block count : Nat) (encode : Nat → Nat → Bytes) (text : Bytes) : List Bytes :=
  let size := text.length
  let zeros := (2 * block - (size + 1 + count) % block) % block
  let all := text ++ 0x80 :: List.replicate zeros 0 ++ encode count (8 * size)
  blocks block (all.length / block + 1) all []

def bigWord (bs : Bytes) : Nat := bs.foldl (fun n b => n * 256 + b.toNat) 0

def littleWord (bs : Bytes) : Nat := bigWord bs.reverse

def words (size : Nat) (decode : Bytes → Nat) (block : Bytes) : List Nat :=
  (blocks size (block.length / size + 1) block []).map decode

def hexText (bs : Bytes) : Octets :=
  let digit := fun (n : Nat) => Char.ofNat (if n < 10 then 48 + n else 87 + n)
  bs.flatMap fun b => [digit (b.toNat / 16), digit (b.toNat % 16)]

def rotate32 (x : UInt32) (n : UInt32) : UInt32 := (x <<< n) ||| (x >>> (32 - n))

def rotate64 (x : UInt64) (n : UInt64) : UInt64 := (x <<< n) ||| (x >>> (64 - n))

def sines : List UInt32 := [
  0xd76aa478, 0xe8c7b756, 0x242070db, 0xc1bdceee, 0xf57c0faf, 0x4787c62a, 0xa8304613, 0xfd469501,
  0x698098d8, 0x8b44f7af, 0xffff5bb1, 0x895cd7be, 0x6b901122, 0xfd987193, 0xa679438e, 0x49b40821,
  0xf61e2562, 0xc040b340, 0x265e5a51, 0xe9b6c7aa, 0xd62f105d, 0x02441453, 0xd8a1e681, 0xe7d3fbc8,
  0x21e1cde6, 0xc33707d6, 0xf4d50d87, 0x455a14ed, 0xa9e3e905, 0xfcefa3f8, 0x676f02d9, 0x8d2a4c8a,
  0xfffa3942, 0x8771f681, 0x6d9d6122, 0xfde5380c, 0xa4beea44, 0x4bdecfa9, 0xf6bb4b60, 0xbebfbc70,
  0x289b7ec6, 0xeaa127fa, 0xd4ef3085, 0x04881d05, 0xd9d4d039, 0xe6db99e5, 0x1fa27cf8, 0xc4ac5665,
  0xf4292244, 0x432aff97, 0xab9423a7, 0xfc93a039, 0x655b59c3, 0x8f0ccc92, 0xffeff47d, 0x85845dd1,
  0x6fa87e4f, 0xfe2ce6e0, 0xa3014314, 0x4e0811a1, 0xf7537e82, 0xbd3af235, 0x2ad7d2bb, 0xeb86d391]

def md5Turns : List UInt32 :=
  ([[7, 12, 17, 22], [5, 9, 14, 20], [4, 11, 16, 23], [6, 10, 15, 21]] : List (List UInt32)).flatMap fun turns =>
    turns ++ turns ++ turns ++ turns

structure Four where
  a : UInt32
  b : UInt32
  c : UInt32
  d : UInt32

def md5Step (w : Array UInt32) (s : Four) (step : (UInt32 × UInt32) × Nat) : Four :=
  let ((k, turn), i) := step
  let (f, g) :=
    if i < 16 then ((s.b &&& s.c) ||| ((~~~s.b) &&& s.d), i)
    else if i < 32 then ((s.d &&& s.b) ||| ((~~~s.d) &&& s.c), (5 * i + 1) % 16)
    else if i < 48 then (s.b ^^^ s.c ^^^ s.d, (3 * i + 5) % 16)
    else (s.c ^^^ (s.b ||| (~~~s.d)), (7 * i) % 16)
  ⟨s.d, s.b + rotate32 (s.a + f + k + (w[g]?).getD 0) turn, s.b, s.c⟩

def md5Block (s : Four) (block : Bytes) : Four :=
  let w := ((words 4 littleWord block).map fun n => n.toUInt32).toArray
  let r := ((sines.zip md5Turns).zipIdx).foldl (md5Step w) s
  ⟨s.a + r.a, s.b + r.b, s.c + r.c, s.d + r.d⟩

def md5 (text : Bytes) : Bytes :=
  let s := (padded 64 8 littleBytes text).foldl md5Block ⟨0x67452301, 0xefcdab89, 0x98badcfe, 0x10325476⟩
  [s.a, s.b, s.c, s.d].flatMap fun x => littleBytes 4 x.toNat

structure Five where
  a : UInt32
  b : UInt32
  c : UInt32
  d : UInt32
  e : UInt32

def sha1Schedule (block : Bytes) : Array UInt32 :=
  (List.range' 16 64).foldl (fun (w : Array UInt32) i =>
    let at' := fun k => (w[i - k]?).getD 0
    w.push (rotate32 (at' 3 ^^^ at' 8 ^^^ at' 14 ^^^ at' 16) 1)) ((words 4 bigWord block).map fun n => n.toUInt32).toArray

def sha1Step (s : Five) (step : UInt32 × Nat) : Five :=
  let (w, i) := step
  let (f, k) : UInt32 × UInt32 :=
    if i < 20 then ((s.b &&& s.c) ||| ((~~~s.b) &&& s.d), 0x5a827999)
    else if i < 40 then (s.b ^^^ s.c ^^^ s.d, 0x6ed9eba1)
    else if i < 60 then ((s.b &&& s.c) ||| (s.b &&& s.d) ||| (s.c &&& s.d), 0x8f1bbcdc)
    else (s.b ^^^ s.c ^^^ s.d, 0xca62c1d6)
  ⟨rotate32 s.a 5 + f + s.e + k + w, s.a, rotate32 s.b 30, s.c, s.d⟩

def sha1Block (s : Five) (block : Bytes) : Five :=
  let r := (sha1Schedule block).toList.zipIdx.foldl sha1Step s
  ⟨s.a + r.a, s.b + r.b, s.c + r.c, s.d + r.d, s.e + r.e⟩

def sha1 (text : Bytes) : Bytes :=
  let s := (padded 64 8 bigBytes text).foldl sha1Block ⟨0x67452301, 0xefcdab89, 0x98badcfe, 0x10325476, 0xc3d2e1f0⟩
  [s.a, s.b, s.c, s.d, s.e].flatMap fun x => bigBytes 4 x.toNat

structure Eight (α : Type) where
  a : α
  b : α
  c : α
  d : α
  e : α
  f : α
  g : α
  h : α

def Eight.toList {α : Type} (s : Eight α) : List α := [s.a, s.b, s.c, s.d, s.e, s.f, s.g, s.h]

def Eight.zipWith {α : Type} (op : α → α → α) (s r : Eight α) : Eight α :=
  ⟨op s.a r.a, op s.b r.b, op s.c r.c, op s.d r.d, op s.e r.e, op s.f r.f, op s.g r.g, op s.h r.h⟩

def roots32 : List UInt32 := [
  0x428a2f98, 0x71374491, 0xb5c0fbcf, 0xe9b5dba5, 0x3956c25b, 0x59f111f1, 0x923f82a4, 0xab1c5ed5,
  0xd807aa98, 0x12835b01, 0x243185be, 0x550c7dc3, 0x72be5d74, 0x80deb1fe, 0x9bdc06a7, 0xc19bf174,
  0xe49b69c1, 0xefbe4786, 0x0fc19dc6, 0x240ca1cc, 0x2de92c6f, 0x4a7484aa, 0x5cb0a9dc, 0x76f988da,
  0x983e5152, 0xa831c66d, 0xb00327c8, 0xbf597fc7, 0xc6e00bf3, 0xd5a79147, 0x06ca6351, 0x14292967,
  0x27b70a85, 0x2e1b2138, 0x4d2c6dfc, 0x53380d13, 0x650a7354, 0x766a0abb, 0x81c2c92e, 0x92722c85,
  0xa2bfe8a1, 0xa81a664b, 0xc24b8b70, 0xc76c51a3, 0xd192e819, 0xd6990624, 0xf40e3585, 0x106aa070,
  0x19a4c116, 0x1e376c08, 0x2748774c, 0x34b0bcb5, 0x391c0cb3, 0x4ed8aa4a, 0x5b9cca4f, 0x682e6ff3,
  0x748f82ee, 0x78a5636f, 0x84c87814, 0x8cc70208, 0x90befffa, 0xa4506ceb, 0xbef9a3f7, 0xc67178f2]

def sha256Schedule (block : Bytes) : Array UInt32 :=
  (List.range' 16 48).foldl (fun (w : Array UInt32) i =>
    let at' := fun k => (w[i - k]?).getD 0
    let x := at' 15
    let y := at' 2
    let s0 := rotate32 x 25 ^^^ rotate32 x 14 ^^^ (x >>> 3)
    let s1 := rotate32 y 15 ^^^ rotate32 y 13 ^^^ (y >>> 10)
    w.push (at' 16 + s0 + at' 7 + s1)) ((words 4 bigWord block).map fun n => n.toUInt32).toArray

def sha256Step (s : Eight UInt32) (step : UInt32 × UInt32) : Eight UInt32 :=
  let s1 := rotate32 s.e 26 ^^^ rotate32 s.e 21 ^^^ rotate32 s.e 7
  let choice := (s.e &&& s.f) ^^^ ((~~~s.e) &&& s.g)
  let t1 := s.h + s1 + choice + step.1 + step.2
  let s0 := rotate32 s.a 30 ^^^ rotate32 s.a 19 ^^^ rotate32 s.a 10
  let majority := (s.a &&& s.b) ^^^ (s.a &&& s.c) ^^^ (s.b &&& s.c)
  ⟨t1 + s0 + majority, s.a, s.b, s.c, s.d + t1, s.e, s.f, s.g⟩

def sha256Block (s : Eight UInt32) (block : Bytes) : Eight UInt32 :=
  Eight.zipWith (· + ·) s ((roots32.zip (sha256Schedule block).toList).foldl sha256Step s)

def sha256From (start : Eight UInt32) (text : Bytes) : Bytes :=
  ((padded 64 8 bigBytes text).foldl sha256Block start).toList.flatMap fun x => bigBytes 4 x.toNat

def sha256 (text : Bytes) : Bytes := sha256From ⟨
  0x6a09e667, 0xbb67ae85, 0x3c6ef372, 0xa54ff53a, 0x510e527f, 0x9b05688c, 0x1f83d9ab, 0x5be0cd19⟩ text

def sha224 (text : Bytes) : Bytes := (sha256From ⟨
  0xc1059ed8, 0x367cd507, 0x3070dd17, 0xf70e5939, 0xffc00b31, 0x68581511, 0x64f98fa7, 0xbefa4fa4⟩ text).take 28

def roots64 : List UInt64 := [
  0x428a2f98d728ae22, 0x7137449123ef65cd, 0xb5c0fbcfec4d3b2f, 0xe9b5dba58189dbbc, 0x3956c25bf348b538,
  0x59f111f1b605d019, 0x923f82a4af194f9b, 0xab1c5ed5da6d8118, 0xd807aa98a3030242, 0x12835b0145706fbe,
  0x243185be4ee4b28c, 0x550c7dc3d5ffb4e2, 0x72be5d74f27b896f, 0x80deb1fe3b1696b1, 0x9bdc06a725c71235,
  0xc19bf174cf692694, 0xe49b69c19ef14ad2, 0xefbe4786384f25e3, 0x0fc19dc68b8cd5b5, 0x240ca1cc77ac9c65,
  0x2de92c6f592b0275, 0x4a7484aa6ea6e483, 0x5cb0a9dcbd41fbd4, 0x76f988da831153b5, 0x983e5152ee66dfab,
  0xa831c66d2db43210, 0xb00327c898fb213f, 0xbf597fc7beef0ee4, 0xc6e00bf33da88fc2, 0xd5a79147930aa725,
  0x06ca6351e003826f, 0x142929670a0e6e70, 0x27b70a8546d22ffc, 0x2e1b21385c26c926, 0x4d2c6dfc5ac42aed,
  0x53380d139d95b3df, 0x650a73548baf63de, 0x766a0abb3c77b2a8, 0x81c2c92e47edaee6, 0x92722c851482353b,
  0xa2bfe8a14cf10364, 0xa81a664bbc423001, 0xc24b8b70d0f89791, 0xc76c51a30654be30, 0xd192e819d6ef5218,
  0xd69906245565a910, 0xf40e35855771202a, 0x106aa07032bbd1b8, 0x19a4c116b8d2d0c8, 0x1e376c085141ab53,
  0x2748774cdf8eeb99, 0x34b0bcb5e19b48a8, 0x391c0cb3c5c95a63, 0x4ed8aa4ae3418acb, 0x5b9cca4f7763e373,
  0x682e6ff3d6b2b8a3, 0x748f82ee5defb2fc, 0x78a5636f43172f60, 0x84c87814a1f0ab72, 0x8cc702081a6439ec,
  0x90befffa23631e28, 0xa4506cebde82bde9, 0xbef9a3f7b2c67915, 0xc67178f2e372532b, 0xca273eceea26619c,
  0xd186b8c721c0c207, 0xeada7dd6cde0eb1e, 0xf57d4f7fee6ed178, 0x06f067aa72176fba, 0x0a637dc5a2c898a6,
  0x113f9804bef90dae, 0x1b710b35131c471b, 0x28db77f523047d84, 0x32caab7b40c72493, 0x3c9ebe0a15c9bebc,
  0x431d67c49c100d4c, 0x4cc5d4becb3e42b6, 0x597f299cfc657e2a, 0x5fcb6fab3ad6faec, 0x6c44198c4a475817]

def sha512Schedule (block : Bytes) : Array UInt64 :=
  (List.range' 16 64).foldl (fun (w : Array UInt64) i =>
    let at' := fun k => (w[i - k]?).getD 0
    let x := at' 15
    let y := at' 2
    let s0 := rotate64 x 63 ^^^ rotate64 x 56 ^^^ (x >>> 7)
    let s1 := rotate64 y 45 ^^^ rotate64 y 3 ^^^ (y >>> 6)
    w.push (at' 16 + s0 + at' 7 + s1)) ((words 8 bigWord block).map fun n => n.toUInt64).toArray

def sha512Step (s : Eight UInt64) (step : UInt64 × UInt64) : Eight UInt64 :=
  let s1 := rotate64 s.e 50 ^^^ rotate64 s.e 46 ^^^ rotate64 s.e 23
  let choice := (s.e &&& s.f) ^^^ ((~~~s.e) &&& s.g)
  let t1 := s.h + s1 + choice + step.1 + step.2
  let s0 := rotate64 s.a 36 ^^^ rotate64 s.a 30 ^^^ rotate64 s.a 25
  let majority := (s.a &&& s.b) ^^^ (s.a &&& s.c) ^^^ (s.b &&& s.c)
  ⟨t1 + s0 + majority, s.a, s.b, s.c, s.d + t1, s.e, s.f, s.g⟩

def sha512Block (s : Eight UInt64) (block : Bytes) : Eight UInt64 :=
  Eight.zipWith (· + ·) s ((roots64.zip (sha512Schedule block).toList).foldl sha512Step s)

def sha512From (start : Eight UInt64) (text : Bytes) : Bytes :=
  ((padded 128 16 bigBytes text).foldl sha512Block start).toList.flatMap fun x => bigBytes 8 x.toNat

def start512 : Eight UInt64 := ⟨
  0x6a09e667f3bcc908, 0xbb67ae8584caa73b, 0x3c6ef372fe94f82b, 0xa54ff53a5f1d36f1, 0x510e527fade682d1,
  0x9b05688c2b3e6c1f, 0x1f83d9abfb41bd6b, 0x5be0cd19137e2179⟩

def sha512 (text : Bytes) : Bytes := sha512From start512 text

def sha384 (text : Bytes) : Bytes := (sha512From ⟨
  0xcbbb9d5dc1059ed8, 0x629a292a367cd507, 0x9159015a3070dd17, 0x152fecd8f70e5939, 0x67332667ffc00b31,
  0x8eb44a8768581511, 0xdb0c2e0d64f98fa7, 0x47b5481dbefa4fa4⟩ text).take 48

def blakeOrders : List (List Nat) := [
  [0, 1, 2, 3, 4, 5, 6, 7, 8, 9, 10, 11, 12, 13, 14, 15], [14, 10, 4, 8, 9, 15, 13, 6, 1, 12, 0, 2, 11, 7, 5, 3],
  [11, 8, 12, 0, 5, 2, 15, 13, 10, 14, 3, 6, 7, 1, 9, 4], [7, 9, 3, 1, 13, 12, 11, 14, 2, 6, 5, 10, 4, 0, 15, 8],
  [9, 0, 5, 7, 2, 4, 10, 15, 14, 1, 11, 12, 6, 8, 3, 13], [2, 12, 6, 10, 0, 11, 8, 3, 4, 13, 7, 5, 15, 14, 1, 9],
  [12, 5, 1, 15, 14, 13, 4, 10, 0, 7, 6, 3, 9, 2, 8, 11], [13, 11, 7, 14, 12, 1, 3, 9, 5, 0, 15, 4, 8, 6, 2, 10],
  [6, 15, 14, 9, 11, 3, 0, 8, 12, 2, 13, 7, 1, 4, 10, 5], [10, 2, 8, 4, 7, 6, 1, 5, 15, 11, 9, 14, 3, 12, 13, 0],
  [0, 1, 2, 3, 4, 5, 6, 7, 8, 9, 10, 11, 12, 13, 14, 15], [14, 10, 4, 8, 9, 15, 13, 6, 1, 12, 0, 2, 11, 7, 5, 3]]

def blakeQuads : List (Nat × Nat × Nat × Nat) := [
  (0, 4, 8, 12), (1, 5, 9, 13), (2, 6, 10, 14), (3, 7, 11, 15), (0, 5, 10, 15), (1, 6, 11, 12), (2, 7, 8, 13), (3, 4, 9, 14)]

def blakeMix (v : Array UInt64) (quad : Nat × Nat × Nat × Nat) (x y : UInt64) : Array UInt64 :=
  let (i, j, k, l) := quad
  let get := fun (n : Nat) => (v[n]?).getD 0
  let a := get i + get j + x
  let d := rotate64 (get l ^^^ a) 32
  let c := get k + d
  let b := rotate64 (get j ^^^ c) 40
  let a := a + b + y
  let d := rotate64 (d ^^^ a) 48
  let c := c + d
  let b := rotate64 (b ^^^ c) 1
  (((v.setIfInBounds i a).setIfInBounds j b).setIfInBounds k c).setIfInBounds l d

def blakeBlock (count : Nat) (last : Bool) (h : Array UInt64) (block : Bytes) : Array UInt64 :=
  let m := ((words 8 littleWord block).map fun n => n.toUInt64).toArray
  let iv := start512.toList.toArray
  let v := h ++ iv
  let v := v.modify 12 (· ^^^ count.toUInt64)
  let v := if last then v.modify 14 (~~~·) else v
  let v := blakeOrders.foldl (fun v order =>
    (blakeQuads.zipIdx).foldl (fun v (quad, i) =>
      let pick := fun (n : Nat) => (m[(order[n]?).getD 0]?).getD 0
      blakeMix v quad (pick (2 * i)) (pick (2 * i + 1))) v) v
  (Array.range 8).map fun i => (h[i]?).getD 0 ^^^ (v[i]?).getD 0 ^^^ (v[i + 8]?).getD 0

def blake2b (size : Nat) (text : Bytes) : Bytes :=
  let start := start512.toList.toArray.modify 0 (· ^^^ (0x01010000 + size).toUInt64)
  let cut := blocks 128 (text.length / 128 + 1) text []
  let cut := if cut.isEmpty then [[]] else cut
  let h := (cut.zipIdx).foldl (fun h (block, i) =>
    let last := i + 1 = cut.length
    let count := if last then text.length else 128 * (i + 1)
    blakeBlock count last h (block ++ List.replicate (128 - block.length) 0)) start
  (h.toList.flatMap fun x => littleBytes 8 x.toNat).take size

def crcBit (x : UInt32) : UInt32 := if x &&& 0x80000000 ≠ 0 then (x <<< 1) ^^^ 0x04c11db7 else x <<< 1

def crcTable : Array UInt32 :=
  (Array.range 256).map fun i => Nat.repeat crcBit 8 (i.toUInt32 <<< (24 : UInt32))

def crcByte (crc : UInt32) (b : UInt8) : UInt32 :=
  (crc <<< 8) ^^^ ((crcTable[((crc >>> 24) ^^^ b.toUInt32).toNat]?).getD 0)

def lengthBytes : Nat → Nat → Bytes
  | 0, _ => []
  | _, 0 => []
  | n + 1, x => (x % 256).toUInt8 :: lengthBytes n (x / 256)

def crc (text : Bytes) : Nat := (~~~((text ++ lengthBytes 8 text.length).foldl crcByte 0)).toNat

def turningSum (text : Bytes) : Nat :=
  text.foldl (fun n b => ((n / 2 + (n % 2) * 32768) + b.toNat) % 65536) 0

def plainSum (text : Bytes) : Nat :=
  let s := text.foldl (fun n b => n + b.toNat) 0 % 4294967296
  let r := s % 65536 + s / 65536
  r % 65536 + r / 65536

end Digest

structure DigestKind where
  name : String
  digits : Nat
  digest : Bytes → Bytes

def digestKind? : String → Option DigestKind
  | "md5" => some ⟨"MD5", 32, Digest.md5⟩
  | "sha1" => some ⟨"SHA1", 40, Digest.sha1⟩
  | "sha224" => some ⟨"SHA224", 56, Digest.sha224⟩
  | "sha256" => some ⟨"SHA256", 64, Digest.sha256⟩
  | "sha384" => some ⟨"SHA384", 96, Digest.sha384⟩
  | "sha512" => some ⟨"SHA512", 128, Digest.sha512⟩
  | "blake2b" => some ⟨"BLAKE2b", 128, Digest.blake2b 64⟩
  | _ => none

def digestRow (kind : DigestKind) (tagged binary : Bool) (ending : Char) (path : Octets) (text : Octets) : Octets :=
  let hex := Digest.hexText (kind.digest (Octets.toBytes text))
  if tagged then kind.name.toList ++ " (".toList ++ path ++ ") = ".toList ++ hex ++ [ending]
  else hex ++ ' ' :: (if binary then '*' else ' ') :: path ++ [ending]

def readDigestRow (kind : DigestKind) (line : Octets) : Option (Octets × Octets) :=
  let tag := kind.name.toList ++ " (".toList
  if tag.isPrefixOf line then
    let hex := (line.reverse.takeWhile (· ≠ ' ')).reverse
    let path := ((line.drop tag.length).reverse.drop (hex.length + 4)).reverse
    if hex.length = kind.digits then some (hex, path) else none
  else
    let hex := line.takeWhile fun c => c.isDigit || ('a' ≤ c && c ≤ 'f') || ('A' ≤ c && c ≤ 'F')
    match line.drop hex.length with
    | ' ' :: c :: path => if hex.length = kind.digits && (c = ' ' || c = '*') then some (hex, path) else none
    | _ => none

def checkDigests (who : Octets) (kind : DigestKind) (o : Options) : Exec Nat := do
  let results ← (sources o.operands).mapM fun list => do
    match ← readOperand list with
    | .error e => do
        complain who (blamePath list e)
        return false
    | .ok text => do
        let rows := (Octets.lines text).map fun (l, _) => readDigestRow kind l
        let good := rows.filterMap id
        if good.isEmpty then
          let name := if list == ['-'] then "'standard input'".toList else list
          complain who (name ++ ": no properly formatted checksum lines found".toList)
          return false
        let outcomes ← good.mapM fun (hex, path) => do
          match ← readOperand path with
          | .error e => do
              complain who (blamePath path e)
              if !o.has "status" then write 1 (path ++ ": FAILED open or read\n".toList)
              return (none : Option Bool)
          | .ok text => do
              let same := Digest.hexText (kind.digest (Octets.toBytes text)) == hex.map Char.toLower
              if !o.has "status" && !(same && o.has "quiet") then
                write 1 (path ++ (if same then ": OK\n" else ": FAILED\n").toList)
              return some same
        let bad := (rows.filter Option.isNone).length
        let unread := (outcomes.filter Option.isNone).length
        let differing := (outcomes.filter (· == some false)).length
        let warn := fun (n : Nat) (one many : String) => do
          if n > 0 && !o.has "status" then
            complain who ("WARNING: ".toList ++ Octets.ofNat n ++ ' ' :: (if n = 1 then one else many).toList)
        warn bad "line is improperly formatted" "lines are improperly formatted"
        warn unread "listed file could not be read" "listed files could not be read"
        warn differing "computed checksum did NOT match" "computed checksums did NOT match"
        return unread = 0 && differing = 0 && !(o.has "strict" && bad > 0)
  return if results.all id then 0 else 1

def digestSum (kind : DigestKind) (who : Octets) (args : List Octets) : Exec Nat :=
  withOptions who 1 "bctwl:z" [("binary", "b"), ("check", "c"), ("text", "t"), ("tag", "tag"), ("zero", "z"),
    ("ignore-missing", "ignore-missing"), ("quiet", "quiet"), ("status", "status"), ("strict", "strict"), ("warn", "w"),
    ("length=", "l")] args fun o => do
    let kind := match kind.name, (o.value? "l").bind Octets.nat? with
      | "BLAKE2b", some (bits + 1) => ⟨kind.name, (bits + 1) / 4, Digest.blake2b ((bits + 1) / 8)⟩
      | _, _ => kind
    if o.has "c" then checkDigests who kind o
    else do
      let (texts, good) ← readOperands who blamePath (sources o.operands)
      let ending := if o.has "z" then '\x00' else '\n'
      write 1 (texts.flatMap fun (path, text) => digestRow kind (o.has "tag") (o.has "b") ending path text)
      return if good then 0 else 1

def blockCount (size : Nat) (text : Octets) : Nat := (text.length + size - 1) / size

def nameAfter (o : Options) (path : Octets) : Octets := if o.operands.isEmpty then [] else ' ' :: path

def sumRow (o : Options) (kind : String) (path text : Octets) : Octets :=
  let bytes := Octets.toBytes text
  match kind with
  | "bsd" =>
      Octets.padLeft 5 '0' (Octets.ofNat (Digest.turningSum bytes)) ++ ' ' ::
        Octets.padLeft 5 ' ' (Octets.ofNat (blockCount 1024 text)) ++ nameAfter o path ++ ['\n']
  | "sysv" =>
      Octets.ofNat (Digest.plainSum bytes) ++ ' ' :: Octets.ofNat (blockCount 512 text) ++ nameAfter o path ++ ['\n']
  | _ => Octets.ofNat (Digest.crc bytes) ++ ' ' :: Octets.ofNat text.length ++ nameAfter o path ++ ['\n']

def sumFiles (who : Octets) (args : List Octets) : Exec Nat :=
  withOptions who 1 "rs" [("sysv", "s")] args fun o => do
    let (texts, good) ← readOperands who blamePath (sources o.operands)
    let last := (o.given.filter fun g => g.1 == "r" || g.1 == "s").getLast?.map (·.1)
    let kind := if last == some "s" then "sysv" else "bsd"
    write 1 (texts.flatMap fun (path, text) => sumRow o kind path text)
    return if good then 0 else 1

def cksum (who : Octets) (args : List Octets) : Exec Nat :=
  withOptions who 1 "a:bctl:wz" [("algorithm=", "a"), ("base64", "base64"), ("check", "c"), ("length=", "l"), ("tag", "tag"),
    ("untagged", "untagged"), ("zero", "z"), ("quiet", "quiet"), ("status", "status"), ("strict", "strict"), ("warn", "w"),
    ("debug", "debug"), ("raw", "raw")] args fun o => do
    let name := ((o.value? "a").map String.ofList).getD "crc"
    match digestKind? name with
    | some kind => do
        if o.has "c" then checkDigests who kind o
        else do
          let (texts, good) ← readOperands who blamePath (sources o.operands)
          write 1 (texts.flatMap fun (path, text) => digestRow kind (!o.has "untagged") false '\n' path text)
          return if good then 0 else 1
    | none =>
        if !(["crc", "bsd", "sysv"].contains name) then do
          complain who ("invalid argument ".toList ++ quotes name.toList ++ " for '--algorithm'".toList)
          write 2 "Valid arguments are:\n".toList
          for valid in ["bsd", "sysv", "crc", "md5", "sha1", "sha224", "sha256", "sha384", "sha512", "blake2b", "sm3"] do
            write 2 ("  - ".toList ++ quotes valid.toList ++ ['\n'])
          write 2 (hint who)
          return 1
        else do
          let (texts, good) ← readOperands who blamePath (sources o.operands)
          write 1 (texts.flatMap fun (path, text) => sumRow o name path text)
          return if good then 0 else 1

end LintBridge.Shell.Program
