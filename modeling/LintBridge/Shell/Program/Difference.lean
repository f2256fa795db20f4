import LintBridge.Shell.Program.Columns
import Std.Data.HashMap

namespace LintBridge.Shell.Program

open Exec

namespace Difference

structure Box where
  left : Nat
  right : Nat
  top : Nat
  bottom : Nat

structure Pair where
  xs : Array Nat
  ys : Array Nat

namespace Pair

def same (p : Pair) (x y : Nat) : Bool :=
  match p.xs[x]?, p.ys[y]? with
  | some a, some b => a = b
  | _, _ => false

def ahead (p : Pair) (b : Box) : Nat → Nat → Nat → Nat
  | 0, x, _ => x
  | n + 1, x, y => if x < b.right && y < b.bottom && p.same x y then p.ahead b n (x + 1) (y + 1) else x

def back (p : Pair) (b : Box) : Nat → Nat → Nat → Nat
  | 0, x, _ => x
  | n + 1, x, y => if b.left < x && b.top < y && p.same (x - 1) (y - 1) then p.back b n (x - 1) (y - 1) else x

/-- Two searches that come nearer to each other, one from each end. For every diagonal they know how far they got. -/
structure Meeting where
  box : Box
  forward : Array Int
  backward : Array Int
  forwardLow : Int
  forwardHigh : Int
  backwardLow : Int
  backwardHigh : Int

namespace Meeting

def index (m : Meeting) (d : Int) : Nat := (d + m.box.bottom - m.box.left + 1).toNat

def forwardAt (m : Meeting) (d : Int) : Int := (m.forward[m.index d]?).getD (-1)

def backwardAt (m : Meeting) (d : Int) : Int := (m.backward[m.index d]?).getD (-1)

def farthest : Int := 4611686018427387904

def low (m : Meeting) : Int := (m.box.left : Int) - m.box.bottom

def high (m : Meeting) : Int := (m.box.right : Int) - m.box.top

def extendForward (m : Meeting) : Meeting :=
  let m := if m.low < m.forwardLow then
      { m with forward := m.forward.setIfInBounds (m.index (m.forwardLow - 2)) (-1), forwardLow := m.forwardLow - 1 }
    else { m with forwardLow := m.forwardLow + 1 }
  if m.forwardHigh < m.high then
    { m with forward := m.forward.setIfInBounds (m.index (m.forwardHigh + 2)) (-1), forwardHigh := m.forwardHigh + 1 }
  else { m with forwardHigh := m.forwardHigh - 1 }

def extendBackward (m : Meeting) : Meeting :=
  let m := if m.low < m.backwardLow then
      { m with backward := m.backward.setIfInBounds (m.index (m.backwardLow - 2)) farthest, backwardLow := m.backwardLow - 1 }
    else { m with backwardLow := m.backwardLow + 1 }
  if m.backwardHigh < m.high then
    { m with backward := m.backward.setIfInBounds (m.index (m.backwardHigh + 2)) farthest,
             backwardHigh := m.backwardHigh + 1 }
  else { m with backwardHigh := m.backwardHigh - 1 }

end Meeting

def sweepForward (p : Pair) (odd : Bool) : Nat → Int → Meeting → Meeting × Option (Nat × Nat)
  | 0, _, m => (m, none)
  | n + 1, d, m =>
      if d < m.forwardLow then (m, none)
      else
        let low := m.forwardAt (d - 1)
        let high := m.forwardAt (d + 1)
        let start := if low < high then high else low + 1
        let x := p.ahead m.box (p.xs.size + 1) start.toNat (start - d).toNat
        let m := { m with forward := m.forward.setIfInBounds (m.index d) x }
        if odd && m.backwardLow ≤ d && d ≤ m.backwardHigh && m.backwardAt d ≤ (x : Int) then (m, some (x, ((x : Int) - d).toNat))
        else p.sweepForward odd n (d - 2) m

def sweepBackward (p : Pair) (odd : Bool) : Nat → Int → Meeting → Meeting × Option (Nat × Nat)
  | 0, _, m => (m, none)
  | n + 1, d, m =>
      if d < m.backwardLow then (m, none)
      else
        let low := m.backwardAt (d - 1)
        let high := m.backwardAt (d + 1)
        let start := if low < high then low else high - 1
        let x := p.back m.box (p.xs.size + 1) start.toNat (start - d).toNat
        let m := { m with backward := m.backward.setIfInBounds (m.index d) x }
        if !odd && m.forwardLow ≤ d && d ≤ m.forwardHigh && (x : Int) ≤ m.forwardAt d then (m, some (x, ((x : Int) - d).toNat))
        else p.sweepBackward odd n (d - 2) m

def meet (p : Pair) (odd : Bool) (size : Nat) : Nat → Meeting → Nat × Nat
  | 0, m => (m.box.left, m.box.top)
  | n + 1, m =>
      let m := m.extendForward
      match p.sweepForward odd size m.forwardHigh m with
      | (_, some place) => place
      | (m, none) =>
          let m := m.extendBackward
          match p.sweepBackward odd size m.backwardHigh m with
          | (_, some place) => place
          | (m, none) => p.meet odd size n m

def middle (p : Pair) (b : Box) : Nat × Nat :=
  let size := (b.right - b.left) + (b.bottom - b.top) + 4
  let first : Int := (b.left : Int) - b.top
  let last : Int := (b.right : Int) - b.bottom
  let m : Meeting := ⟨b, Array.replicate size (-1), Array.replicate size Meeting.farthest, first, first, last, last⟩
  let m := { m with forward := m.forward.setIfInBounds (m.index first) b.left,
                    backward := m.backward.setIfInBounds (m.index last) b.right }
  p.meet ((first - last) % 2 ≠ 0) size size m

def changes (p : Pair) : Nat → Box → List Nat × List Nat
  | 0, _ => ([], [])
  | n + 1, b =>
      let start := p.ahead b (b.right - b.left) b.left b.top
      let b := { b with left := start, top := b.top + (start - b.left) }
      let stop := p.back b (b.right - b.left) b.right b.bottom
      let b := { b with right := stop, bottom := b.bottom - (b.right - stop) }
      if b.left = b.right then ([], List.range' b.top (b.bottom - b.top))
      else if b.top = b.bottom then (List.range' b.left (b.right - b.left), [])
      else
        let (x, y) := p.middle b
        let (d, a) := p.changes n { b with right := x, bottom := y }
        let (d', a') := p.changes n { b with left := x, top := y }
        (d ++ d', a ++ a')

end Pair

structure Runs where
  changed : Array Bool
  other : Array Bool
  i : Nat
  j : Nat

namespace Runs

def at? (marks : Array Bool) (i : Nat) : Bool := (marks[i]?).getD false

def skip (marks : Array Bool) : Nat → Nat → Nat
  | 0, i => i
  | n + 1, i => if at? marks i then skip marks n (i + 1) else i

def skipBack (marks : Array Bool) : Nat → Nat → Nat
  | 0, i => i
  | n + 1, i => if 0 < i && at? marks (i - 1) then skipBack marks n (i - 1) else i

def slideBack (lines : Array Nat) : Nat → Nat → Runs → Nat × Runs
  | 0, start, r => (start, r)
  | n + 1, start, r =>
      if 0 < start && lines[start - 1]? = lines[r.i - 1]? then
        let changed := (r.changed.setIfInBounds (start - 1) true).setIfInBounds (r.i - 1) false
        let begin := skipBack changed changed.size (start - 1)
        -- The matching line of the other file is passed, and what changed before it.
        let j := skipBack r.other r.other.size (r.j - 1)
        slideBack lines n begin { r with changed := changed, i := r.i - 1, j := j }
      else (start, r)

/-- Moves a run on as long as the line after it is like its first one; remembers the last place where the other file has
a run too. -/
def slideOn (lines : Array Nat) : Nat → Nat → Nat → Runs → Nat × Nat × Runs
  | 0, start, match', r => (start, match', r)
  | n + 1, start, match', r =>
      if r.i < lines.size && lines[start]? = lines[r.i]? then
        let changed := (r.changed.setIfInBounds start false).setIfInBounds r.i true
        let i := skip changed changed.size (r.i + 1)
        let j := skip r.other r.other.size (r.j + 1)
        slideOn lines n (start + 1) (if r.j + 1 < j then i else match') { r with changed := changed, i := i, j := j }
      else (start, match', r)

def returnTo (match' : Nat) : Nat → Nat → Runs → Nat × Runs
  | 0, start, r => (start, r)
  | n + 1, start, r =>
      if match' < r.i then
        let changed := (r.changed.setIfInBounds (start - 1) true).setIfInBounds (r.i - 1) false
        let j := skipBack r.other r.other.size (r.j - 1)
        returnTo match' n (start - 1) { r with changed := changed, i := r.i - 1, j := j }
      else (start, r)

def settle (lines : Array Nat) : Nat → Nat → Runs → Nat × Nat × Runs
  | 0, start, r => (start, lines.size, r)
  | n + 1, start, r =>
      let length := r.i - start
      let (start, r) := slideBack lines (lines.size + 1) start r
      let match' := if 0 < r.j && at? r.other (r.j - 1) then r.i else lines.size
      let (start, match', r) := slideOn lines (lines.size + 1) start match' r
      if length = r.i - start then (start, match', r) else settle lines n start r

def shift (lines : Array Nat) : Nat → Runs → Runs
  | 0, r => r
  | n + 1, r =>
      if r.i ≥ lines.size then r
      else if !at? r.changed r.i then
        shift lines n { r with i := r.i + 1, j := skip r.other r.other.size r.j + 1 }
      else
        let start := r.i
        let r := { r with i := skip r.changed r.changed.size r.i, j := skip r.other r.other.size r.j }
        let (start, match', r) := settle lines (lines.size + 1) start r
        let (_, r) := returnTo match' lines.size start r
        shift lines n r

end Runs

structure Change where
  first : Nat
  deleted : Nat
  second : Nat
  added : Nat
  deriving DecidableEq, Repr

def script (old new : Array Bool) : Nat → Nat → Nat → List Change
  | 0, _, _ => []
  | n + 1, i, j =>
      if i ≥ old.size && j ≥ new.size then []
      else
        let i' := Runs.skip old old.size i
        let j' := Runs.skip new new.size j
        if i' = i && j' = j then script old new n (i + 1) (j + 1)
        else ⟨i, i' - i, j, j' - j⟩ :: script old new n i' j'

def marks (size : Nat) (places : List Nat) : Array Bool :=
  places.foldl (fun (m : Array Bool) i => m.setIfInBounds i true) (Array.replicate size false)

def number (keys : List Octets) : List Nat :=
  (keys.foldl (fun (acc : List Nat × Std.HashMap Octets Nat) key =>
    match acc.2.get? key with
    | some n => (n :: acc.1, acc.2)
    | none => (acc.2.size :: acc.1, acc.2.insert key acc.2.size)) ([], {})).1.reverse

def commonStart : Nat → List Nat → List Nat → Nat
  | n, a :: as, b :: bs => if a = b then commonStart (n + 1) as bs else n
  | n, _, _ => n

/-- The changes between two lists of lines. So many equal lines around are taken into account. -/
def changes (horizon : Nat) (xs ys : List Octets) : List Change :=
  let numbers := number (xs ++ ys)
  let xs := numbers.take xs.length
  let ys := numbers.drop xs.length
  let before := commonStart 0 xs ys - horizon
  let xs := xs.drop before
  let ys := ys.drop before
  let start := commonStart 0 xs ys
  let after := min (commonStart 0 xs.reverse ys.reverse) (min xs.length ys.length - start) - horizon
  let xs := (xs.take (xs.length - after)).toArray
  let ys := (ys.take (ys.length - after)).toArray
  -- Lines without a partner in the other file take no part in the comparison.
  let inYs : Std.HashMap Nat Unit := ys.foldl (fun m y => m.insert y ()) {}
  let inXs : Std.HashMap Nat Unit := xs.foldl (fun m x => m.insert x ()) {}
  let keptX := (List.range xs.size).filter fun i => (xs[i]?).any inYs.contains
  let keptY := (List.range ys.size).filter fun i => (ys[i]?).any inXs.contains
  let p : Pair := ⟨(keptX.filterMap (xs[·]?)).toArray, (keptY.filterMap (ys[·]?)).toArray⟩
  let (deleted, added) := p.changes (p.xs.size + p.ys.size + 1) ⟨0, p.xs.size, 0, p.ys.size⟩
  let goneX := marks keptX.length deleted
  let goneY := marks keptY.length added
  let stayX := (keptX.zipIdx.filter fun (_, k) => !Runs.at? goneX k).map (·.1)
  let stayY := (keptY.zipIdx.filter fun (_, k) => !Runs.at? goneY k).map (·.1)
  let inverse := fun (size : Nat) (stay : List Nat) => (marks size stay).map (!·)
  let old := inverse xs.size stayX
  let new := inverse ys.size stayY
  let fuel := 2 * (xs.size + ys.size) + 2
  let r := Runs.shift xs fuel ⟨old, new, 0, 0⟩
  let r := Runs.shift ys fuel ⟨r.other, r.changed, 0, 0⟩
  (script r.other r.changed fuel 0 0).map fun c => { c with first := c.first + before, second := c.second + before }

structure Side where
  lines : Array Octets
  ended : Bool

def Side.show' (s : Side) (sign : String) (i : Nat) : Octets :=
  sign.toList ++ (s.lines[i]?).getD [] ++ ['\n'] ++
    (if i + 1 = s.lines.size && !s.ended then "\\ No newline at end of file\n".toList else [])

def Side.rows (s : Side) (sign : String) (first count : Nat) : Octets :=
  (List.range' first count).flatMap (s.show' sign)

/-- A range of lines, the first one counted from one; empty ranges name the line before. -/
def spanText (first count : Nat) : Octets :=
  if count = 0 then Octets.ofNat first
  else if count = 1 then Octets.ofNat (first + 1)
  else Octets.ofNat (first + 1) ++ ',' :: Octets.ofNat (first + count)

def normal (a b : Side) (c : Change) : Octets :=
  let letter := if c.deleted = 0 then 'a' else if c.added = 0 then 'd' else 'c'
  spanText c.first c.deleted ++ letter :: spanText c.second c.added ++ ['\n'] ++
    a.rows "< " c.first c.deleted ++
    (if c.deleted > 0 && c.added > 0 then "---\n".toList else []) ++
    b.rows "> " c.second c.added

/-- Groups changes whose surroundings touch. The group under way has its last change first. -/
def group (context : Nat) : List Change → List Change → List (List Change)
  | [], [] => []
  | now, [] => [now.reverse]
  | [], c :: cs => group context [c] cs
  | last :: now, c :: cs =>
      if c.first ≤ last.first + last.deleted + 2 * context then group context (c :: last :: now) cs
      else (last :: now).reverse :: group context [c] cs

def unifiedSpan (first count : Nat) : Octets :=
  if count = 1 then Octets.ofNat (first + 1)
  else Octets.ofNat (if count = 0 then first else first + 1) ++ ',' :: Octets.ofNat count

def edges (context : Nat) (a b : Side) (cs : List Change) : Nat × Nat × Nat × Nat :=
  let first := cs.headD ⟨0, 0, 0, 0⟩
  let last := cs.getLastD first
  let lead := min context (min first.first first.second)
  let trail := min context (a.lines.size - (last.first + last.deleted))
  (first.first - lead, last.first + last.deleted + trail, first.second - lead,
    min b.lines.size (last.second + last.added + trail))

def unified (context : Nat) (a b : Side) (cs : List Change) : Octets :=
  let (low, high, low', high') := edges context a b cs
  let head := "@@ -".toList ++ unifiedSpan low (high - low) ++ " +".toList ++ unifiedSpan low' (high' - low') ++ " @@\n".toList
  let (body, next) := cs.foldl (fun (acc : Octets × Nat) c =>
    (acc.1 ++ a.rows " " acc.2 (c.first - acc.2) ++ a.rows "-" c.first c.deleted ++ b.rows "+" c.second c.added,
      c.first + c.deleted)) ([], low)
  head ++ body ++ a.rows " " next (high - next)

def contextual (context : Nat) (a b : Side) (cs : List Change) : Octets :=
  let (low, high, low', high') := edges context a b cs
  let range := fun (first last : Nat) => if last ≤ first + 1 then Octets.ofNat last
    else Octets.ofNat (first + 1) ++ ',' :: Octets.ofNat last
  let part := fun (s : Side) (sign : String) (low high : Nat) (places : List (Nat × Nat × Bool)) =>
    let (body, next) := places.foldl (fun (acc : Octets × Nat) (first, count, both) =>
      (acc.1 ++ s.rows "  " acc.2 (first - acc.2) ++ s.rows (if both then "! " else sign) first count, first + count)) ([], low)
    body ++ s.rows "  " next (high - next)
  let old := cs.map fun c => (c.first, c.deleted, decide (c.added > 0))
  let new := cs.map fun c => (c.second, c.added, decide (c.deleted > 0))
  "***************\n*** ".toList ++ range low high ++ " ****\n".toList ++
    (if cs.any fun c => c.deleted > 0 then part a "- " low high old else []) ++
    "--- ".toList ++ range low' high' ++ " ----\n".toList ++
    (if cs.any fun c => c.added > 0 then part b "+ " low' high' new else [])

structure Columns where
  half : Nat
  second : Nat
  blanks : Bool

def Columns.ofWidth (width : Nat) (blanks : Bool) : Columns :=
  let tab := if blanks then 1 else 8
  let rough := width / 2 + (tab + 3) / 2 + width % 2 * ((tab + 3) % 2)
  let place := rough - rough % tab
  let half := min (place - 3) (width - place)
  ⟨half, if half = 0 then width else place, blanks⟩

def Columns.gap (c : Columns) (start stop : Nat) : Octets :=
  if c.blanks then List.replicate (stop - start) ' '
  else
    let tabs := stop / 8 - start / 8
    List.replicate tabs '\t' ++ List.replicate (stop - (if tabs = 0 then start else stop / 8 * 8)) ' '

def Columns.part (c : Columns) (line : Octets) : Octets × Nat :=
  let (out, _, stop) := line.foldl (fun (acc : Octets × Nat × Nat) ch =>
    let (out, inside, stop) := acc
    if ch = '\t' then
      let next := inside + 8 - inside % 8
      if inside = stop then
        if c.blanks then (List.replicate (min next c.half - stop) ' ' ++ out, next, max stop (min next c.half))
        else if next < c.half then ('\t' :: out, next, next)
        else (out, next, stop)
      else (out, next, stop)
    else if ' ' ≤ ch && ch ≤ '~' then
      if inside < c.half then (ch :: out, inside + 1, inside + 1) else (out, inside + 1, stop)
    else if inside < c.half then (ch :: out, inside, stop) else acc) ([], 0, 0)
  (out.reverse, stop)

/-- A row of both columns with a sign between them. Lines come with whether they are ended. -/
def Columns.row (c : Columns) (left : Option (Octets × Bool)) (sign : Char) (right : Option (Octets × Bool)) : Octets :=
  let (first, column) := match left with
    | some (line, _) => c.part line
    | none => ([], 0)
  let leftEnds := left.any (·.2)
  let sign := if sign = '|' && leftEnds != right.any (·.2) then (if leftEnds then '/' else '\\') else sign
  let middle := (c.half + c.second - 1) / 2
  let (between, column) := if sign = ' ' then ([], column) else (c.gap column middle ++ [sign], middle + 1)
  let second := match right with
    | some (line, ended) => if line.isEmpty && ended then [] else c.gap column c.second ++ (c.part line).1
    | none => []
  first ++ between ++ second ++ (if leftEnds || right.any (·.2) then ['\n'] else [])

inductive CommonRows where
  | both
  | left
  | hidden
  deriving DecidableEq, Repr

def Side.line? (s : Side) (i : Nat) : Option (Octets × Bool) :=
  (s.lines[i]?).map fun line => (line, i + 1 < s.lines.size || s.ended)

def Columns.common (c : Columns) (shown : CommonRows) (a b : Side) (i j count : Nat) : Octets :=
  if shown = .hidden then []
  else (List.range count).flatMap fun k =>
    if shown = .left then c.row (a.line? (i + k)) '(' none else c.row (a.line? (i + k)) ' ' (b.line? (j + k))

def Columns.changed (c : Columns) (a b : Side) (change : Change) : Octets :=
  let pairs := min change.deleted change.added
  (List.range pairs).flatMap (fun k => c.row (a.line? (change.first + k)) '|' (b.line? (change.second + k))) ++
    (List.range (change.added - pairs)).flatMap (fun k => c.row none '>' (b.line? (change.second + pairs + k))) ++
    (List.range (change.deleted - pairs)).flatMap fun k => c.row (a.line? (change.first + pairs + k)) '<' none

def Columns.page (c : Columns) (shown : CommonRows) (a b : Side) (changes : List Change) : Octets :=
  let (out, i, j) := changes.foldl (fun (acc : List Octets × Nat × Nat) change =>
    let (out, i, j) := acc
    (c.changed a b change :: c.common shown a b i j (change.first - i) :: out, change.first + change.deleted,
      change.second + change.added)) ([], 0, 0)
  (c.common shown a b i j (a.lines.size - i) :: out).reverse.flatten

end Difference

end LintBridge.Shell.Program
