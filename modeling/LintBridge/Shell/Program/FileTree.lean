import LintBridge.Shell.Program.Paths
import LintBridge.Shell.Format

namespace LintBridge.Shell.Program

open Exec
open Tool (SystemError)

def blameAction (action : String) : Blame := fun path e =>
  action.toList ++ ' ' :: quotes path ++ ": ".toList ++ e.plainText.toList

def nodeOf (path : Octets) : Exec (Except SystemError (List Bytes × Node)) := do
  let s ← get
  return s.world.files.findLink s.working (Octets.toBytes path)

def goalOf (path : Octets) : Exec (Except SystemError (List Bytes × Node)) := do
  let s ← get
  return s.world.files.find s.working (Octets.toBytes path)

def modifyFiles (f : Files → Files) : Exec Unit := modifyWorld fun w => { w with files := f w.files }

def forAll (operands : List Octets) (body : Octets → Exec Bool) : Exec Nat := do
  let results ← operands.mapM body
  return if results.all id then 0 else 1

def below (files : Files) (place : List Bytes) : List (List Bytes × Node) :=
  files.nodes.filter fun (p, _) => place.isPrefixOf p && place.length < p.length

def typeSign (all : Bool) : Node → Octets
  | .directory => ['/']
  | .link _ => if all then ['@'] else []
  | .file _ true => if all then ['*'] else []
  | .program _ => if all then ['*'] else []
  | _ => []

structure Listing where
  hidden : Bool
  dots : Bool
  signs : Option Bool
  reversed : Bool
  bySize : Bool
  commas : Bool
  across : Bool

def nodeSize : Node → Nat
  | .file content _ => content.length
  | .program _ => 4096
  | .link path => path.length
  | .directory => 4096
  | _ => 0

def Listing.sorted (l : Listing) (names : List (Octets × Node)) : List (Octets × Node) :=
  let byName := names.mergeSort fun a b => Octets.le a.1 b.1
  let ordered := if l.bySize then byName.mergeSort fun a b => nodeSize b.2 ≤ nodeSize a.2 else byName
  if l.reversed then ordered.reverse else ordered

def Listing.render (l : Listing) (names : List (Octets × Node)) : Octets :=
  let shown := (l.sorted names).map fun (name, node) => name ++ (match l.signs with
    | some all => typeSign all node
    | none => [])
  if shown.isEmpty then []
  else if l.commas then (", ".toList).intercalate shown ++ ['\n']
  else if l.across then ("  ".toList).intercalate shown ++ ['\n']
  else Octets.unlines shown

def Listing.entries (l : Listing) (files : Files) (place : List Bytes) : List (Octets × Node) :=
  let inside := (files.entries place).filterMap fun name => (files.get? (place ++ [name])).map fun node => (Octets.ofBytes name, node)
  let inside := if l.hidden then inside else inside.filter fun e => e.1.head? ≠ some '.'
  if l.dots then (['.'], .directory) :: (['.', '.'], .directory) :: inside else inside

def Listing.deep (l : Listing) (files : Files) : Nat → Octets → List Bytes → List (Octets × Octets)
  | 0, _, _ => []
  | n + 1, path, place =>
      let entries := l.entries files place
      let inside := (l.sorted entries).filter fun (name, node) => node == .directory && name != ['.'] && name != ['.', '.']
      (path, l.render entries) :: inside.flatMap fun (name, _) =>
        l.deep files n ((if path == ['/'] then [] else path) ++ '/' :: name) (place ++ [Octets.toBytes name])

def ls (who : Octets) (args : List Octets) : Exec Nat :=
  withOptions who 2 "1aAbBcCdDfFgGhHiI:klLmnNopqQrRsStT:uUvw:xXZ" [("all", "a"), ("almost-all", "A"), ("directory", "d"),
    ("classify=?", "F"), ("file-type", "p"), ("reverse", "r"), ("recursive", "R"), ("color=?", "color"), ("human-readable", "h"),
    ("inode", "i"), ("size", "s"), ("sort=", "sort"), ("time=", "time"), ("group-directories-first", "gdf"),
    ("format=", "format"), ("quoting-style=", "quoting")] args fun o => do
    let l : Listing := {
      hidden := o.has "a" || o.has "A" || o.has "f", dots := (o.has "a" || o.has "f") && !o.has "A",
      signs := if o.has "F" then some true else if o.has "p" then some false else none,
      reversed := o.has "r", bySize := o.has "S", commas := o.has "m", across := o.has "x" || o.has "C" }
    let s ← get
    let files := s.world.files
    let found ← (if o.operands.isEmpty then [['.']] else o.operands).mapM fun path => do
      let node ← (if o.has "d" then nodeOf path else do
        match ← goalOf path with
        | .ok r => return .ok r
        | .error _ => nodeOf path)
      match node with
      | .ok (place, node) => return some (path, place, node)
      | .error e => do
          complain who (blameAction "cannot access" path e)
          return none
    let good := found.all Option.isSome
    let found := found.filterMap id
    let plain := found.filter fun (_, _, node) => o.has "d" || node != .directory
    let folders := found.filter fun (_, _, node) => !o.has "d" && node == .directory
    write 1 (l.render (plain.map fun (path, _, node) => (path, node)))
    let folders := l.sorted (folders.map fun (path, _, node) => (path, node))
    let places := folders.map fun (path, _) => (path, ((found.find? (·.1 == path)).map (·.2.1)).getD [])
    let sections := if o.has "R" then places.flatMap fun (path, place) => l.deep files 64 path place
      else places.map fun (path, place) => (path, l.render (l.entries files place))
    let titled := o.has "R" || o.operands.length > 1
    let texts := sections.map fun (path, body) => (if titled then path ++ [':', '\n'] else []) ++ body
    write 1 ((if plain.isEmpty || texts.isEmpty then [] else ['\n']) ++ (['\n'] : Octets).intercalate texts)
    return if good then 0 else 2

def rm (who : Octets) (args : List Octets) : Exec Nat :=
  withOptions who 1 "dfiIrRv" [("force", "f"), ("recursive", "r"), ("dir", "d"), ("verbose", "v"), ("interactive=?", "i"),
    ("one-file-system", "one"), ("no-preserve-root", "root"), ("preserve-root=?", "root")] args fun o => do
    let deep := o.has "r" || o.has "R"
    if o.operands.isEmpty && !o.has "f" then misuse who 1 "missing operand".toList
    else forAll o.operands fun path => do
      let name := lastName path
      if name == ['.'] || name == ['.', '.'] then
        complain who ("refusing to remove '.' or '..' directory: skipping ".toList ++ quotes path)
        return false
      match ← nodeOf path with
      | .error e => do
          if o.has "f" && e = .notFound then return true
          complain who (blameAction "cannot remove" path e)
          return false
      | .ok (place, .directory) => do
          let inside := below (← get).world.files place
          if !deep && !o.has "d" then
            complain who (blameAction "cannot remove" path (.code 21))
            return false
          if !deep && !inside.isEmpty then
            complain who (blameAction "cannot remove" path (.code 39))
            return false
          modifyFiles fun f => ⟨f.nodes.filter fun (p, _) => !place.isPrefixOf p⟩
          if o.has "v" then
            let rest := inside.reverse.map fun (p, node) =>
              let sub := path ++ Octets.ofBytes ((p.drop place.length).flatMap fun n => Files.slash :: n)
              (if node = .directory then "removed directory ".toList else "removed ".toList) ++ quotes sub ++ ['\n']
            write 1 (rest.flatten ++ "removed directory ".toList ++ quotes path ++ ['\n'])
          return true
      | .ok (place, _) => do
          modifyFiles fun f => f.remove place
          if o.has "v" then write 1 ("removed ".toList ++ quotes path ++ ['\n'])
          return true

def rmdir (who : Octets) (args : List Octets) : Exec Nat :=
  withOptions who 1 "pv" [("parents", "p"), ("verbose", "v"), ("ignore-fail-on-non-empty", "ignore")] args fun o => do
    if o.operands.isEmpty then misuse who 1 "missing operand".toList
    else forAll o.operands fun path => do
      let chain := if o.has "p" then
          let names := (Octets.splitOn (· = '/') (trimSlashes path))
          (List.range names.length).reverse.map fun i => (['/'] : Octets).intercalate (names.take (i + 1))
        else [path]
      let results ← (chain.filter (!·.isEmpty)).mapM fun path => do
        match ← nodeOf path with
        | .ok (place, .directory) => do
            if (below (← get).world.files place).isEmpty then
              modifyFiles fun f => f.remove place
              return true
            else do
              if !o.has "ignore" then complain who (blameAction "failed to remove" path (.code 39))
              return o.has "ignore"
        | .ok _ => do
            complain who (blameAction "failed to remove" path .notADirectory)
            return false
        | .error e => do
            complain who (blameAction "failed to remove" path e)
            return false
      return results.all id

def unlink (who : Octets) (args : List Octets) : Exec Nat :=
  withOptions who 1 "" [] args fun o => do
    match o.operands with
    | [] => misuse who 1 "missing operand".toList
    | [path] => do
        match ← nodeOf path with
        | .ok (_, .directory) => do
            complain who (blameAction "cannot unlink" path (.code 21))
            return 1
        | .ok (place, _) => do
            modifyFiles fun f => f.remove place
            return 0
        | .error e => do
            complain who (blameAction "cannot unlink" path e)
            return 1
    | _ :: extra :: _ => misuse who 1 ("extra operand ".toList ++ quotes extra)

def makeDirectory (path : Octets) : Exec (Except SystemError Unit) := do
  let s ← get
  match s.world.files.locate s.working (Octets.toBytes (trimSlashes path)) with
  | .error e => return .error e
  | .ok place =>
      match s.world.files.get? place with
      | some _ => return .error (.code 17)
      | none => do
          modifyFiles fun f => f.put place .directory
          return .ok ()

def mkdir (who : Octets) (args : List Octets) : Exec Nat :=
  withOptions who 1 "m:pvZ" [("mode=", "m"), ("parents", "p"), ("verbose", "v")] args fun o => do
    if o.operands.isEmpty then misuse who 1 "missing operand".toList
    else forAll o.operands fun path => do
      let absolute := path.head? = some '/'
      let names := (Octets.splitOn (· = '/') path).filter (!·.isEmpty)
      let chain := if o.has "p" then
          (List.range names.length).map fun i => (if absolute then ['/'] else []) ++ (['/'] : Octets).intercalate (names.take (i + 1))
        else [path]
      let results ← chain.mapM fun path => do
        match ← makeDirectory path with
        | .ok _ => do
            if o.has "v" then write 1 (who ++ ": created directory ".toList ++ quotes path ++ ['\n'])
            return true
        | .error e => do
            let there ← goalOf path
            if o.has "p" && (match there with | .ok (_, .directory) => true | _ => false) then return true
            complain who (blameAction "cannot create directory" path e)
            return false
      return results.all id

def touch (who : Octets) (args : List Octets) : Exec Nat :=
  withOptions who 1 "acd:fhmr:t:" [("no-create", "c"), ("date=", "d"), ("reference=", "r"), ("time=", "time"),
    ("no-dereference", "h")] args fun o => do
    if o.operands.isEmpty then misuse who 1 "missing file operand".toList
    else forAll o.operands fun path => do
      let s ← get
      match s.world.files.locate s.working (Octets.toBytes path) with
      | .error e => do
          if o.has "c" && e = .notFound then return true
          complain who (blameAction "cannot touch" path e)
          return false
      | .ok place =>
          match s.world.files.get? place with
          | some _ => return true
          | none => do
              if o.has "c" then return true
              if path.getLast? = some '/' then
                complain who (blameAction "cannot touch" path .notFound)
                return false
              modifyFiles fun f => f.put place (.file [] false)
              return true

def freshName (files : Files) (start : List Bytes) (before after : Octets) (count : Nat) : Nat → Octets
  | 0 => before ++ after
  | n + 1 =>
      let letters := "abcdefghijklmnopqrstuvwxyz".toList
      let body := (List.range count).map fun i => (letters[(n + i * 7) / Nat.pow 26 (count - 1 - i) % 26]?).getD 'a'
      let name := before ++ body ++ after
      match files.findLink start (Octets.toBytes name) with
      | .error _ => name
      | .ok _ => freshName files start before after count n

def mktemp (who : Octets) (args : List Octets) : Exec Nat :=
  withOptions who 1 "dp:qtuV" [("directory", "d"), ("dry-run", "u"), ("quiet", "q"), ("suffix=", "suffix"), ("tmpdir=?", "tmpdir")] args fun o => do
    let s ← get
    let template := o.operands.headD "tmp.XXXXXXXXXX".toList
    let suffix := (o.value? "suffix").getD []
    let folder := match o.value? "p" <|> o.value? "tmpdir" with
      | some [] => some ((s.vars.lookup "TMPDIR".toList).getD "/tmp".toList)
      | some d => some d
      | none => if o.operands.isEmpty || o.has "t" then some ((s.vars.lookup "TMPDIR".toList).getD "/tmp".toList) else none
    let back := template.reverse
    let after := (if o.has "suffix" then [] else (back.takeWhile (· ≠ 'X')).reverse)
    let marks := (back.drop after.length).takeWhile (· = 'X')
    if marks.length < 3 then
      complain who ("too few X's in template ".toList ++ quotes template)
      return 1
    else do
      let before := template.take (template.length - after.length - marks.length)
      let before := match folder with
        | some d => d ++ '/' :: before
        | none => before
      let path := freshName s.world.files s.working before (after ++ suffix) marks.length 10000
      if !o.has "u" then
        match s.world.files.locate s.working (Octets.toBytes path) with
        | .error e => do
            complain who ("failed to create file via template ".toList ++ quotes (before ++ marks ++ after ++ suffix) ++ ": ".toList ++
              e.plainText.toList)
            return 1
        | .ok place => modifyFiles fun f => f.put place (if o.has "d" then .directory else .file [] false)
      write 1 (path ++ ['\n'])
      return 0

def copyTree (source goal : List Bytes) (f : Files) : Files :=
  let inside := (f.nodes.filter fun (p, _) => source.isPrefixOf p).map fun (p, node) => (goal ++ p.drop source.length, node)
  inside.reverse.foldl (fun f (p, node) => f.put p node) f

def goalPlace (source goal : Octets) (noFolder : Bool) : Exec (Except SystemError (List Bytes × Octets)) := do
  let s ← get
  match ← goalOf goal with
  | .ok (place, .directory) =>
      if noFolder then return .ok (place, goal)
      else
        let base := trimSlashes goal
        return .ok (place ++ [Octets.toBytes (lastName source)], (if base == ['/'] then [] else base) ++ '/' :: lastName source)
  | _ => return (s.world.files.locate s.working (Octets.toBytes (trimSlashes goal))).map fun place => (place, goal)

def withGoal (who : Octets) (o : Options) (body : Octets → Octets → Exec Bool) : Exec Nat := do
  match o.value? "t" with
  | some goal =>
      if o.operands.isEmpty then misuse who 1 "missing file operand".toList
      else forAll o.operands fun source => body source goal
  | none =>
      match o.operands with
      | [] => misuse who 1 "missing file operand".toList
      | [a] => misuse who 1 ("missing destination file operand after ".toList ++ quotes a)
      | [a, b] => forAll [a] fun source => body source b
      | many => do
          let goal := many.getLastD []
          match ← goalOf goal with
          | .ok (_, .directory) => forAll many.dropLast fun source => body source goal
          | .ok _ => do
              complain who ("target ".toList ++ quotes goal ++ ": ".toList ++ "Not a directory".toList)
              return 1
          | .error e => do
              complain who ("target ".toList ++ quotes goal ++ ": ".toList ++ e.plainText.toList)
              return 1

def cp (who : Octets) (args : List Octets) : Exec Nat :=
  withOptions who 1 "abdfHilLnpPrRst:TuvxZ" [("archive", "a"), ("force", "f"), ("interactive", "i"), ("link", "l"),
    ("no-clobber", "n"), ("recursive", "r"), ("symbolic-link", "s"), ("target-directory=", "t"), ("no-target-directory", "T"),
    ("update=?", "u"), ("verbose", "v"), ("preserve=?", "p"), ("dereference", "L"), ("no-dereference", "P"), ("parents", "parents"),
    ("backup=?", "b"), ("sparse=", "sparse"), ("reflink=?", "reflink")] args fun o => do
    let deep := o.has "r" || o.has "R" || o.has "a"
    withGoal who o fun source goal => do
      let found ← (if deep then nodeOf source else goalOf source)
      match found with
      | .error e => do
          complain who (blameAction "cannot stat" source e)
          return false
      | .ok (place, node) => do
          if node == .directory && !deep then
            complain who ("-r not specified; omitting directory ".toList ++ quotes source)
            return false
          match ← goalPlace source goal (o.has "T") with
          | .error e => do
              complain who ((if node == .directory then "cannot create directory " else "cannot create regular file ").toList ++ quotes goal ++
                ": ".toList ++ e.plainText.toList)
              return false
          | .ok (target, shown) => do
              let there := (← get).world.files.get? target
              if target = place then
                complain who (quotes source ++ " and ".toList ++ quotes shown ++ " are the same file".toList)
                return false
              if node == .directory && place.isPrefixOf target then
                complain who ("cannot copy a directory, ".toList ++ quotes source ++ ", into itself, ".toList ++ quotes shown)
                return false
              if o.has "n" && there.isSome then return true
              if node != .directory && there == some .directory then
                complain who ("cannot overwrite directory ".toList ++ quotes shown ++ " with non-directory".toList)
                return false
              if node == .directory && there.any (· != .directory) then
                complain who ("cannot overwrite non-directory ".toList ++ quotes shown ++ " with directory ".toList ++ quotes source)
                return false
              match node with
              | .directory => modifyFiles (copyTree place target)
              | .file content runs => do
                  match there with
                  | some .void => return true
                  | some (.file _ old) => modifyFiles fun f => f.put target (.file content old)
                  | _ => modifyFiles fun f => f.put target (.file content runs)
              | node => modifyFiles fun f => f.put target (match node with
                  | .void => .file [] false
                  | node => node)
              if o.has "v" then write 1 (quotes source ++ " -> ".toList ++ quotes shown ++ ['\n'])
              return true

def mv (who : Octets) (args : List Octets) : Exec Nat :=
  withOptions who 1 "bfint:TuvZ" [("force", "f"), ("interactive", "i"), ("no-clobber", "n"), ("target-directory=", "t"),
    ("no-target-directory", "T"), ("update=?", "u"), ("verbose", "v"), ("backup=?", "b"), ("strip-trailing-slashes", "strip")] args fun o =>
    withGoal who o fun source goal => do
      match ← nodeOf source with
      | .error e => do
          complain who (blameAction "cannot stat" source e)
          return false
      | .ok (place, node) => do
          match ← goalPlace source goal (o.has "T") with
          | .error e => do
              complain who ("cannot move ".toList ++ quotes source ++ " to ".toList ++ quotes goal ++ ": ".toList ++ e.plainText.toList)
              return false
          | .ok (target, shown) => do
              let there := (← get).world.files.get? target
              if target = place then
                complain who (quotes source ++ " and ".toList ++ quotes shown ++ " are the same file".toList)
                return false
              if node == .directory && place.isPrefixOf target then
                complain who ("cannot move ".toList ++ quotes source ++ " to a subdirectory of itself, ".toList ++ quotes shown)
                return false
              if o.has "n" && there.isSome then return true
              if node != .directory && there == some .directory then
                complain who ("cannot overwrite directory ".toList ++ quotes shown ++ " with non-directory".toList)
                return false
              if node == .directory && there.any (· != .directory) then
                complain who ("cannot overwrite non-directory ".toList ++ quotes shown ++ " with directory ".toList ++ quotes source)
                return false
              modifyFiles fun f =>
                let copied := copyTree place target f
                ⟨copied.nodes.filter fun (p, _) => !place.isPrefixOf p⟩
              if o.has "v" then write 1 ("renamed ".toList ++ quotes source ++ " -> ".toList ++ quotes shown ++ ['\n'])
              return true

def ln (who : Octets) (args : List Octets) : Exec Nat :=
  withOptions who 1 "bdfFiLnPrsS:t:Tv" [("symbolic", "s"), ("force", "f"), ("no-dereference", "n"), ("relative", "r"),
    ("target-directory=", "t"), ("no-target-directory", "T"), ("verbose", "v")] args fun o => do
    let o := match o.operands with
      | [a] => if o.has "t" then o else { o with operands := [a, ['.']] }
      | _ => o
    withGoal who o fun source goal => do
      let soft := o.has "s"
      let found ← (if soft then return .ok ([], .link (Octets.toBytes source)) else nodeOf source)
      match found with
      | .error e => do
          complain who (blameAction "failed to access" source e)
          return false
      | .ok (_, node) => do
          let kind := if soft then "failed to create symbolic link" else "failed to create hard link"
          match ← (if o.has "n" then do
              let s ← get
              return (Files.locateWith false s.world.files s.working (Octets.toBytes (trimSlashes goal))).map fun place => (place, goal)
            else goalPlace source goal (o.has "T")) with
          | .error e => do
              complain who (blameAction kind goal e)
              return false
          | .ok (target, shown) => do
              if node == .directory then
                complain who (source ++ ": hard link not allowed for directory".toList)
                return false
              if ((← get).world.files.get? target).isSome && !o.has "f" then
                complain who (blameAction kind shown (.code 17))
                return false
              modifyFiles fun f => f.put target node
              if o.has "v" then
                write 1 (quotes shown ++ (if soft then " -> " else " => ").toList ++ quotes source ++ ['\n'])
              return true

def modeRuns? (mode : Octets) : Option (Option Bool) :=
  if !mode.isEmpty && mode.all fun c => (Format.octal? c).isSome then
    let n := mode.foldl (fun n c => n * 8 + (Format.octal? c).getD 0) 0
    some (some (n / 64 % 2 = 1))
  else
    (Octets.splitOn (· = ',') mode).foldl (fun acc clause =>
      acc.bind fun old =>
        let who := clause.takeWhile fun c => "ugoa".toList.contains c
        match clause.drop who.length with
        | op :: letters =>
            if !(['+', '-', '='].contains op) || !letters.all "rwxXstugo".toList.contains then none
            else if who.isEmpty || who.contains 'u' || who.contains 'a' then
              let x := letters.contains 'x'
              some (if op = '=' then some x else if x then some (op = '+') else old)
            else some old
        | [] => none) (some none)

def chmod (who : Octets) (args : List Octets) : Exec Nat := do
  -- A mode may begin with a hyphen.
  let (minus, args) := match args.find? fun a => match a with
      | '-' :: c :: cs => (c :: cs).all "rwxXst".toList.contains
      | _ => false with
    | some m => (some m, args.erase m)
    | none => (none, args)
  withOptions who 1 "cfRv" [("changes", "c"), ("silent", "f"), ("quiet", "f"), ("verbose", "v"), ("recursive", "R"),
    ("reference=", "reference")] args fun o => do
    let operands := minus.toList ++ o.operands
    match operands with
    | [] => misuse who 1 "missing operand".toList
    | [mode] => misuse who 1 ("missing operand after ".toList ++ quotes mode)
    | mode :: paths =>
        match modeRuns? mode with
        | none => misuse who 1 ("invalid mode: ".toList ++ quotes mode)
        | some runs => forAll paths fun path => do
            match ← goalOf path with
            | .error e => do
                if !o.has "f" then complain who (blameAction "cannot access" path e)
                return false
            | .ok (place, .file content old) => do
                modifyFiles fun f => f.put place (.file content (runs.getD old))
                return true
            | .ok (place, _) => do
                if o.has "R" then
                  modifyFiles fun f => ⟨f.nodes.map fun (p, node) =>
                    match node with
                    | .file content old => (p, if place.isPrefixOf p then .file content (runs.getD old) else node)
                    | node => (p, node)⟩
                return true

def chown (who : Octets) (args : List Octets) : Exec Nat :=
  withOptions who 1 "cfhRv" [("recursive", "R"), ("verbose", "v"), ("no-dereference", "h")] args fun o => do
    match o.operands with
    | [] => misuse who 1 "missing operand".toList
    | [a] => misuse who 1 ("missing operand after ".toList ++ quotes a)
    | _ :: paths => forAll paths fun path => do
        match ← goalOf path with
        | .ok _ => return true
        | .error e => do
            complain who (blameAction "cannot access" path e)
            return false

def nodeKind : Node → String
  | .file [] _ => "regular empty file"
  | .file _ _ => "regular file"
  | .program _ => "regular file"
  | .directory => "directory"
  | .link _ => "symbolic link"
  | _ => "character special file"

def nodeMode : Node → String × String
  | .file _ true => ("755", "-rwxr-xr-x")
  | .program _ => ("755", "-rwxr-xr-x")
  | .file _ false => ("644", "-rw-r--r--")
  | .directory => ("755", "drwxr-xr-x")
  | .link _ => ("777", "lrwxrwxrwx")
  | _ => ("666", "crw-rw-rw-")

def statText (path : Octets) (node : Node) : Nat → Octets → Octets
  | 0, _ => []
  | _, [] => []
  | n + 1, '%' :: c :: cs =>
      let text : Octets := match c with
        | 'n' => path
        | 's' => Octets.ofNat (nodeSize node)
        | 'F' => (nodeKind node).toList
        | 'a' => (nodeMode node).1.toList
        | 'A' => (nodeMode node).2.toList
        | 'U' => "root".toList
        | 'G' => "root".toList
        | 'u' => ['0']
        | 'g' => ['0']
        | 'h' => ['1']
        | 'N' => quotes path
        | 'B' => "512".toList
        | '%' => ['%']
        | c => [c]
      text ++ statText path node n cs
  | n + 1, c :: cs => c :: statText path node n cs

def stat (who : Octets) (args : List Octets) : Exec Nat :=
  withOptions who 1 "c:fLt" [("format=", "c"), ("printf=", "printf"), ("dereference", "L"), ("terse", "t"), ("file-system", "f")] args fun o => do
    if o.operands.isEmpty then misuse who 1 "missing operand".toList
    else forAll o.operands fun path => do
      match ← (if o.has "L" then goalOf path else nodeOf path) with
      | .error e => do
          complain who (blameAction "cannot statx" path e)
          return false
      | .ok (_, node) => do
          match o.value? "printf", o.value? "c" with
          | some format, _ => write 1 (statText path node (format.length + 1) (Format.unescape .program format).1)
          | none, some format => write 1 (statText path node (format.length + 1) format ++ ['\n'])
          | none, none => write 1 ("  File: ".toList ++ path ++ ['\n'])
          return true

def newSize? (text : Octets) (old : Nat) : Option Nat :=
  match text with
  | '+' :: n => (size? n).map (old + ·)
  | '-' :: n => (size? n).map (old - ·)
  | '<' :: n => (size? n).map (min old)
  | '>' :: n => (size? n).map (max old)
  | '/' :: n => (size? n).bind fun n => if n = 0 then none else some (old / n * n)
  | '%' :: n => (size? n).bind fun n => if n = 0 then none else some ((old + n - 1) / n * n)
  | n => size? n

def truncate (who : Octets) (args : List Octets) : Exec Nat :=
  withOptions who 1 "cor:s:" [("no-create", "c"), ("size=", "s"), ("reference=", "r"), ("io-blocks", "o")] args fun o => do
    match o.value? "s" with
    | none => misuse who 1 "you must specify either '--size' or '--reference'".toList
    | some size =>
        if (newSize? size 0).isNone then
          complain who ("Invalid number: ".toList ++ quotes size)
          return 1
        else if o.operands.isEmpty then misuse who 1 "missing file operand".toList
        else forAll o.operands fun path => do
          let s ← get
          match s.world.files.locate s.working (Octets.toBytes path) with
          | .error e => do
              complain who ("cannot open ".toList ++ quotes path ++ " for writing: ".toList ++ e.plainText.toList)
              return false
          | .ok place =>
              match s.world.files.get? place with
              | some (.file content runs) => do
                  let n := (newSize? size content.length).getD 0
                  modifyFiles fun f => f.put place (.file (content.take n ++ List.replicate (n - content.length) 0) runs)
                  return true
              | none => do
                  if !o.has "c" then
                    modifyFiles fun f => f.put place (.file (List.replicate ((newSize? size 0).getD 0) 0) false)
                  return true
              | some .directory => do
                  complain who ("cannot open ".toList ++ quotes path ++ " for writing: ".toList ++ (SystemError.plainText (.code 21)).toList)
                  return false
              | some _ => return true

def partName (alphabet : Octets) (count i : Nat) : Octets :=
  let base := alphabet.length
  (List.range count).map fun k => (alphabet[i / Nat.pow base (count - 1 - k) % base]?).getD 'a'

def inParts {α : Type} (size : Nat) : Nat → List α → List (List α) → List (List α)
  | 0, _, done => done.reverse
  | _, [], done => done.reverse
  | n + 1, xs, done => inParts size n (xs.drop size) (xs.take size :: done)

inductive Cutting where
  | bytes (n : Nat)
  | lines (n : Nat)
  | fitting (n : Nat)
  | evenly (n : Nat)
  | evenLines (n : Nat)
  | inTurn (n : Nat)

/-- Whole lines in parts of at most so many bytes; a longer line is cut. -/
def fittingParts (size : Nat) : Octets → List Octets → List Octets
  | part, [] => if part.isEmpty then [] else [part]
  | part, line :: ls =>
      if part.length + line.length ≤ size then fittingParts size (part ++ line) ls
      else
        let pieces := inParts size (line.length + 1) line []
        (if part.isEmpty then [] else [part]) ++ pieces.dropLast ++ fittingParts size (pieces.getLastD []) ls

def evenLineParts (size : Nat) : Nat → Nat → Octets → List Octets
  | 0, _, _ => []
  | 1, _, text => [text]
  | n + 2, used, text =>
      if used ≥ size then [] :: evenLineParts size (n + 1) (used - size) text
      else
        let front := text.take (size - used - 1)
        let line := (text.drop front.length).takeWhile (· ≠ '\n')
        let part := text.take (front.length + line.length + 1)
        part :: evenLineParts size (n + 1) (used + part.length - size) (text.drop part.length)

def Cutting.parts (c : Cutting) (ending : Char) (text : Octets) : List Octets :=
  let lines := (Octets.itemsEnding ending text).map fun (line, ended) => if ended then line ++ [ending] else line
  match c with
  | .bytes n => inParts n (text.length + 1) text []
  | .lines n => (inParts n (lines.length + 1) lines []).map List.flatten
  | .fitting n => fittingParts n [] lines
  | .evenly n =>
      let each := text.length / n
      (List.range n).map fun i => if i + 1 = n then text.drop (i * each) else (text.drop (i * each)).take each
  | .evenLines n => evenLineParts (text.length / n) n 0 text
  | .inTurn n => (List.range n).map fun i => ((lines.zipIdx.filter fun l => l.2 % n = i).map (·.1)).flatten

def readChunks (text : Octets) : Except Octets (Cutting × Option Nat) :=
  let (kind, counts) : (Nat → Cutting) × Octets := match text with
    | 'l' :: '/' :: cs => (.evenLines, cs)
    | 'r' :: '/' :: cs => (.inTurn, cs)
    | cs => (.evenly, cs)
  let bad := fun (n : Octets) => Except.error ("invalid number of chunks: ".toList ++ quotes n)
  match Octets.splitOn (· = '/') counts with
  | [n] => match Octets.nat? n with
      | some (k + 1) => .ok (kind (k + 1), none)
      | _ => bad n
  | [k, n] => match Octets.nat? k, Octets.nat? n with
      | some (i + 1), some (m + 1) =>
          if i ≤ m then .ok (kind (m + 1), some i) else .error ("invalid chunk number: ".toList ++ quotes k)
      | _, some (_ + 1) => .error ("invalid chunk number: ".toList ++ quotes k)
      | _, _ => bad n
  | _ => bad counts

def readCutting (o : Options) : Except Octets (Cutting × Option Nat) :=
  let sized := fun (what : String) (value : Octets) (kind : Nat → Cutting) => match size? value with
    | some (n + 1) => Except.ok (kind (n + 1), (none : Option Nat))
    | _ => .error ("invalid number of ".toList ++ what.toList ++ ": ".toList ++ quotes value)
  match o.given.filter fun g => ["b", "l", "C", "n"].contains g.1 with
  | [] => .ok (.lines 1000, none)
  | [("b", v)] => sized "bytes" v .bytes
  | [("l", v)] => sized "lines" v .lines
  | [("C", v)] => sized "bytes" v .fitting
  | [(_, v)] => readChunks v
  | _ => .error "cannot split in more than one way".toList

def split (who : Octets) (args : List Octets) : Exec Nat :=
  withOptions who 1 "a:b:C:del:n:t:uvx" [("bytes=", "b"), ("lines=", "l"), ("suffix-length=", "a"), ("numeric-suffixes=?", "d"),
    ("hex-suffixes=?", "x"), ("additional-suffix=", "additional"), ("number=", "n"), ("verbose", "verbose"),
    ("line-bytes=", "C"), ("filter=", "filter"), ("separator=", "t"), ("elide-empty-files", "e"), ("unbuffered", "u")]
    (oldLines args) fun o => do
    let source := o.operands.headD ['-']
    let lead := (o.operands[1]?).getD ['x']
    match readCutting o with
    | .error text => do
        complain who text
        return 1
    | .ok (cutting, wanted) => do
    match ← readOperand source with
    | .error e => do
        complain who (if e = .code 21 then blamePath source e
          else "cannot open ".toList ++ quotes source ++ " for reading: ".toList ++ e.plainText.toList)
        return 1
    | .ok text => do
        let parts := cutting.parts ((((o.value? "t").bind List.head?)).getD '\n') text
        let parts := if o.has "e" then parts.filter (!·.isEmpty) else parts
        match wanted with
        | some i => do
            write 1 ((parts[i]?).getD [])
            return 0
        | none => do
        let count := ((o.value? "a").bind Octets.nat?).getD 2
        let extra := (o.value? "additional").getD []
        let first := ((o.value? "d" <|> o.value? "x").bind Octets.nat?).getD 0
        let alphabet := if o.has "d" then "0123456789" else if o.has "x" then "0123456789abcdef" else "abcdefghijklmnopqrstuvwxyz"
        for (part, i) in parts.zipIdx do
          let path := lead ++ partName alphabet.toList count (first + i) ++ extra
          if o.has "verbose" then write 1 ("creating file ".toList ++ quotes path ++ ['\n'])
          match ← openWrite path false with
          | .ok id => withFd 9 id (write 9 part)
          | .error e => complain who (blamePath path e)
        return 0
where
  oldLines (args : List Octets) : List Octets :=
    args.map fun a => match a with
      | '-' :: c :: cs => if (c :: cs).all Char.isDigit then '-' :: 'l' :: c :: cs else a
      | a => a

end LintBridge.Shell.Program
