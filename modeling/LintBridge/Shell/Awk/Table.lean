import LintBridge.Shell.Awk.Value
import Std.Data.HashMap

namespace LintBridge.Shell.Awk

structure Entry where
  value : Value
  stamp : Nat
  /-- The key as a number, as long as it was only ever used as one. -/
  number : Option Nat

/-- The keys come in an order that follows from a hash of the key and from when it was used last: they fall into
buckets, and in a bucket the key that was used last comes first. -/
structure Table where
  entries : Std.HashMap Octets Entry := {}
  clock : Nat := 0
  texts : Bool := false

instance : Inhabited Table := ⟨{}⟩

def hashOf (cs : Octets) : Nat :=
  cs.foldl (fun h c => Nat.xor h c.toNat * 16777619 % 4294967296) 2166136261

namespace Table

def size (t : Table) : Nat := t.entries.size

/-- How many buckets there are for so many keys: twelve keys on the average fit into one. -/
def buckets : Nat → Nat → Nat → Nat
  | 0, b, _ => b
  | n + 1, b, size => if size > 12 * b then buckets n (2 * b) size else b

def bucketCount (t : Table) : Nat := buckets 32 64 t.size

def mixed (t : Table) : Table :=
  if t.texts then t
  else
    let numbers := t.entries.toList.filterMap fun (key, e) => e.number.map fun n => (n % 64, e.stamp, key)
    let ordered := numbers.mergeSort fun a b => a.1 < b.1 || (a.1 = b.1 && b.2.1 ≤ a.2.1)
    ordered.foldl (fun t (_, _, key) =>
      { t with
        entries := t.entries.modify key fun e => { e with stamp := t.clock, number := none }
        clock := t.clock + 1 }) { t with texts := true }

def keys (t : Table) : List Octets :=
  let t := t.mixed
  let count := t.bucketCount
  let placed := t.entries.toList.map fun (key, e) => (hashOf key % count, e.stamp, key)
  (placed.mergeSort fun a b => a.1 < b.1 || (a.1 = b.1 && b.2.1 ≤ a.2.1)).map (·.2.2)

structure Key where
  text : Octets
  number : Option Nat

def keyOf (format : Octets) (v : Value) : Key :=
  match v with
  | .num x =>
      match whole? x with
      | some n => ⟨Octets.ofInt n, some n.toNat⟩
      | none => ⟨numText format x, none⟩
  | v => ⟨v.toText format, none⟩

def get (t : Table) (k : Key) : Value × Table :=
  let t := if k.number.isNone then t.mixed else t
  match t.entries[k.text]? with
  | some e =>
      (e.value, { t with entries := t.entries.insert k.text { e with stamp := t.clock }, clock := t.clock + 1 })
  | none =>
      let number := if t.texts then none else k.number
      (.unset, { t with entries := t.entries.insert k.text ⟨.unset, t.clock, number⟩, clock := t.clock + 1 })

def set (t : Table) (k : Key) (v : Value) : Table :=
  let t := if k.number.isNone then t.mixed else t
  let number := match t.entries[k.text]? with
    | some e => e.number
    | none => if t.texts then none else k.number
  { t with entries := t.entries.insert k.text ⟨v, t.clock, number⟩, clock := t.clock + 1 }

def contains (t : Table) (k : Key) : Bool := t.entries.contains k.text

def erase (t : Table) (k : Key) : Table := { t with entries := t.entries.erase k.text }

def ofParts (parts : List Octets) : Table :=
  parts.zipIdx.foldl (fun t (part, i) =>
    { t with entries := t.entries.insert (Octets.ofNat (i + 1)) ⟨.input part, t.clock, some (i + 1)⟩, clock := t.clock + 1 })
    {}

end Table

end LintBridge.Shell.Awk
