import LintBridge.Shell.Regex.Reader

namespace LintBridge.Shell.Regex

structure Mode where
  ignoreCase : Bool := false
  /-- Whether the lines within the text have beginnings and ends too. -/
  multiline : Bool := false
  deriving DecidableEq, Repr

/-- A set holds a character also in its other case, if case does not count. -/
def inSet (ignoreCase : Bool) (s : CharSet) (c : Char) : Bool :=
  if ignoreCase then
    (s.ranges.any fun r => (r.1 ≤ c.toLower && c.toLower ≤ r.2) || (r.1 ≤ c.toUpper && c.toUpper ≤ r.2)) != s.negated
  else s.contains c

def isWordAt (text : Array Char) (i : Nat) : Bool := (text[i]?).any Octets.isName2

def isWordBefore (text : Array Char) (i : Nat) : Bool := i != 0 && isWordAt text (i - 1)

/-- Whether a part that matches no characters holds at a place; parts of other kinds do not. -/
def holdsAt (text : Array Char) (mode : Mode) (i : Nat) : Regex → Bool
  | .lineStart => i = 0 || (mode.multiline && text[i - 1]? = some '\n')
  | .lineEnd => i = text.size || (mode.multiline && text[i]? = some '\n')
  | .textStart => i = 0
  | .textEnd => i = text.size
  | .wordStart => isWordAt text i && !isWordBefore text i
  | .wordEnd => !isWordAt text i && isWordBefore text i
  | .wordEdge wanted => (isWordAt text i != isWordBefore text i) == wanted
  | _ => false

/-- An expression laid over a text: where it can stay, and where it can go one character further. -/
inductive Walk where
  | stay
  | stayAt (places : Nat)
  | among (places : Nat)
  | seq (a b : Walk)
  | alt (a b : Walk)
  | rep (low : Nat) (high : Option Nat) (a : Walk)

def placesWhere (p : Nat → Bool) : Nat → Nat → Nat → Nat
  | 0, _, _ => 0
  | n + 1, start, size =>
      if size ≤ 16 then
        (List.range size).foldr (fun i bits => 2 * bits + (if p (start + i) then 1 else 0)) 0
      else
        let half := size / 2
        placesWhere p n start half ||| (placesWhere p n (start + half) (size - half) <<< half)

def lay (text : Array Char) (mode : Mode) : Regex → Walk
  | .empty => .stay
  | .set s => .among (placesWhere (fun i => (text[i]?).any (inSet mode.ignoreCase s)) (text.size + 1) 0 text.size)
  | .seq a b => .seq (lay text mode a) (lay text mode b)
  | .alt a b => .alt (lay text mode a) (lay text mode b)
  | .rep low high _ a => .rep low high (lay text mode a)
  | .group _ a => lay text mode a
  | part => .stayAt (placesWhere (fun i => holdsAt text mode i part) (text.size + 2) 0 (text.size + 1))

def closure (f : Nat → Nat) : Nat → Nat → Nat
  | 0, bits => bits
  | n + 1, bits =>
      let more := bits ||| f bits
      if more = bits then bits else closure f n more

/-- Where a run over characters that all are in some places can end. A carry runs through neighbouring places. -/
def runOver (places bits : Nat) : Nat := (Nat.xor ((bits &&& places) + places) places) ||| bits

def Walk.reach (size : Nat) : Walk → Nat → Nat
  | .stay, bits => bits
  | .stayAt places, bits => bits &&& places
  | .among places, bits => (bits &&& places) <<< 1
  | .seq a b, bits => if bits = 0 then 0 else b.reach size (a.reach size bits)
  | .alt a b, bits => a.reach size bits ||| b.reach size bits
  | .rep low high a, bits =>
      let bits := Nat.repeat (fun b => if b = 0 then 0 else a.reach size b) low bits
      match high, a with
      | none, .among places => runOver places bits
      | none, a => closure (a.reach size) (size + 1) bits
      | some high, a => closure (a.reach size) (high - low) bits

def placesFrom (low high : Nat) : Nat := ((1 <<< (high - low)) - 1) <<< low

def firstStart (f : Nat → Nat) : Nat → Nat → Nat → Nat
  | 0, low, _ => low
  | n + 1, low, high =>
      if high ≤ low + 1 then low
      else
        let middle := (low + high) / 2
        if f (placesFrom low middle) ≠ 0 then firstStart f n low middle else firstStart f n middle high

def Walk.span? (size : Nat) (w : Walk) (start : Nat) : Option (Nat × Nat) :=
  if size < start then none
  else if w.reach size (1 <<< start) ≠ 0 then some (start, (w.reach size (1 <<< start)).log2)
  else if w.reach size (placesFrom start (size + 1)) = 0 then none
  else
    let first := firstStart (w.reach size) (size + 1) start (size + 1)
    some (first, (w.reach size (1 <<< first)).log2)

/-- A place in a text with the groups matched so far, the newest first, and where the match was made to begin. -/
structure Spot where
  pos : Nat
  groups : List (Nat × Nat × Nat) := []
  start : Option Nat := none
  deriving DecidableEq, Repr

/-- The spots that were met. Where nothing is remembered a spot is as good as its place. -/
structure Seen where
  exact : Bool
  places : Nat := 0
  spots : List Spot := []

def Seen.add? (seen : Seen) (s : Spot) : Option Seen :=
  if seen.exact then
    if seen.spots.contains s then none else some { seen with spots := s :: seen.spots }
  else if seen.places.testBit s.pos then none
  else some { seen with places := seen.places ||| (1 <<< s.pos) }

def unique (exact : Bool) (spots : List Spot) : List Spot :=
  (spots.foldl (fun (acc : Seen × List Spot) s =>
    match acc.1.add? s with
    | some seen => (seen, s :: acc.2)
    | none => acc) ({ exact := exact }, [])).2.reverse

/-- Repeats a step any number of times, as long as it gets further. The spots come with the last one first. -/
def many (step : Spot → List Spot) (greedy : Bool) : Nat → Spot → Seen × List Spot → Seen × List Spot
  | 0, _, acc => acc
  | n + 1, s, (seen, out) =>
      match seen.add? s with
      | none => (seen, out)
      | some seen =>
          let acc := (seen, if greedy then out else s :: out)
          let acc := (step s).foldl (fun acc t => if s.pos < t.pos then many step greedy n t acc else acc) acc
          if greedy then (acc.1, s :: acc.2) else acc

def upTo (step : Spot → List Spot) (greedy exact : Bool) : Nat → Spot → List Spot
  | 0, s => [s]
  | n + 1, s =>
      let more := (step s).flatMap (upTo step greedy exact n)
      unique exact (if greedy then more ++ [s] else s :: more)

def runLength (text : Array Char) (ignoreCase : Bool) (members : CharSet) : Nat → Nat → Nat
  | 0, _ => 0
  | n + 1, i => if (text[i]?).any (inSet ignoreCase members) then runLength text ignoreCase members n (i + 1) + 1 else 0

def ends (text : Array Char) (mode : Mode) (exact : Bool) : Regex → Spot → List Spot
  | .empty, s => [s]
  | .set members, s =>
      match text[s.pos]? with
      | some c => if inSet mode.ignoreCase members c then [{ s with pos := s.pos + 1 }] else []
      | none => []
  | .seq a b, s => unique exact ((ends text mode exact a s).flatMap (ends text mode exact b))
  | .alt a b, s => unique exact (ends text mode exact a s ++ ends text mode exact b s)
  | .rep low high greedy (.set members), s =>
      let most := runLength text mode.ignoreCase members (high.getD text.size) s.pos
      let spots := (List.range' low (most + 1 - low)).map fun k => { s with pos := s.pos + k }
      if greedy then spots.reverse else spots
  | .rep low high greedy a, s =>
      let step := ends text mode exact a
      let spots := Nat.repeat (fun spots => unique exact (spots.flatMap step)) low [s]
      match high with
      | some high => unique exact (spots.flatMap (upTo step greedy exact (high - low)))
      | none => (spots.foldl (fun acc t => many step greedy (text.size + 2) t acc) ({ exact := exact }, [])).2.reverse
  | .group n a, s =>
      (ends text mode exact a s).map fun t => { t with groups := (n, s.pos, t.pos) :: t.groups }
  | .back n, s =>
      match s.groups.lookup n with
      | some (i, j) =>
          let fold := fun (c : Char) => if mode.ignoreCase then c.toLower else c
          let wanted := (text.extract i j).map fold
          let found := (text.extract s.pos (s.pos + (j - i))).map fold
          if wanted == found then [{ s with pos := s.pos + (j - i) }] else []
      | none => []
  | .ahead wanted a, s =>
      match ends text mode exact a s with
      | t :: _ => if wanted then [{ t with pos := s.pos }] else []
      | [] => if wanted then [] else [s]
  | .behind wanted a, s =>
      let found := (List.range (s.pos + 1)).any fun i =>
        (ends text mode exact a { s with pos := i }).any fun t => t.pos = s.pos
      if found = wanted then [s] else []
  | .cut, s => [{ s with start := some s.pos }]
  | part, s => if holdsAt text mode s.pos part then [s] else []

structure Match where
  start : Nat
  stop : Nat
  groups : List (Nat × Nat × Nat)
  deriving DecidableEq, Repr

def Match.group (m : Match) (text : Array Char) (n : Nat) : Octets :=
  if n = 0 then (text.extract m.start m.stop).toList
  else match m.groups.lookup n with
    | some (i, j) => (text.extract i j).toList
    | none => []

def longest (spots : List Spot) : Option Spot :=
  spots.foldl (fun best s =>
    match best with
    | some b => if b.pos < s.pos then some s else best
    | none => some s) none

structure Laid where
  regex : Regex
  text : Array Char
  mode : Mode
  first : Bool
  walk : Option Walk

def laidOn (r : Regex) (text : Array Char) (mode : Mode) : Laid :=
  ⟨r, text, mode, false, if r.remembers then none else some (lay text mode r)⟩

def laidFirst (r : Regex) (text : Array Char) (mode : Mode) : Laid := ⟨r, text, mode, true, none⟩

namespace Laid

def matchAt (l : Laid) (i : Nat) : Option Match :=
  let spots := ends l.text l.mode l.regex.remembers l.regex { pos := i }
  (if l.first then spots.head? else longest spots).map fun s => ⟨s.start.getD i, s.pos, s.groups⟩

/-- The first match that begins at a place or later, with its groups. Of the leftmost matches the longest counts, and
the groups are those of the first way in the order of preference that leads to its end. -/
def find? (l : Laid) (i : Nat) : Option Match :=
  match l.walk with
  | none => (List.range' i (l.text.size + 1 - i)).findSome? l.matchAt
  | some w =>
      (w.span? l.text.size i).map fun (start, stop) =>
        if l.regex.groupCount = 0 then ⟨start, stop, []⟩
        else
          let spots := ends l.text l.mode false l.regex { pos := start }
          ⟨start, stop, ((spots.find? fun s => s.pos = stop).map (·.groups)).getD []⟩

def span? (l : Laid) (i : Nat) : Option (Nat × Nat) :=
  match l.walk with
  | none => (l.find? i).map fun m => (m.start, m.stop)
  | some w => w.span? l.text.size i

def stops (l : Laid) (i : Nat) : List Nat :=
  match l.walk with
  | some w =>
      let bits := w.reach l.text.size (1 <<< i)
      (List.range (l.text.size + 1)).reverse.filter bits.testBit
  | none =>
      ((ends l.text l.mode l.regex.remembers l.regex { pos := i }).map (·.pos)).mergeSort fun a b => b ≤ a

def succeeds (l : Laid) : Bool :=
  match l.walk with
  | none => (l.find? 0).isSome
  | some w => w.reach l.text.size (placesFrom 0 (l.text.size + 1)) ≠ 0

end Laid

def isIn (r : Regex) (mode : Mode) (text : Octets) : Bool := (r.laidOn text.toArray mode).succeeds

end LintBridge.Shell.Regex
