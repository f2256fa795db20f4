import LintBridge.Shell.Program.Input

namespace LintBridge.Shell.Program

open Exec

/-- A path without slashes at its end, unless it is nothing but slashes. -/
def trimSlashes (path : Octets) : Octets :=
  let trimmed := (path.reverse.dropWhile (· = '/')).reverse
  if trimmed.isEmpty && !path.isEmpty then ['/'] else trimmed

def lastName (path : Octets) : Octets :=
  let path := trimSlashes path
  if path == ['/'] then path else (path.reverse.takeWhile (· ≠ '/')).reverse

def directoryOf (path : Octets) : Octets :=
  let path := trimSlashes path
  if path == ['/'] then path
  else
    let rest := path.reverse.dropWhile (· ≠ '/')
    if rest.isEmpty then ['.'] else trimSlashes rest.reverse

def dropEnding (ending name : Octets) : Octets :=
  if ending.length < name.length && ending.isSuffixOf name then name.take (name.length - ending.length) else name

def basename (who : Octets) (args : List Octets) : Exec Nat :=
  withOptions who 1 "+as:z" [("multiple", "a"), ("suffix=", "s"), ("zero", "z")] args fun o => do
    let ending := if o.has "z" then ['\x00'] else ['\n']
    let several := o.has "a" || o.has "s"
    match o.operands with
    | [] => misuse who 1 "missing operand".toList
    | [path, suffix] =>
        if several then emit ending ((o.value? "s").getD []) [path, suffix] else emit ending suffix [path]
    | a :: b :: c :: more =>
        if several then emit ending ((o.value? "s").getD []) (a :: b :: c :: more)
        else misuse who 1 ("extra operand ".toList ++ quotes c)
    | paths => emit ending ((o.value? "s").getD []) paths
where
  emit (ending suffix : Octets) (paths : List Octets) : Exec Nat := do
    write 1 (paths.flatMap fun p => dropEnding suffix (lastName p) ++ ending)
    return 0

def dirname (who : Octets) (args : List Octets) : Exec Nat :=
  withOptions who 1 "+z" [("zero", "z")] args fun o => do
    match o.operands with
    | [] => misuse who 1 "missing operand".toList
    | paths => do
        write 1 (paths.flatMap fun p => directoryOf p ++ [if o.has "z" then '\x00' else '\n'])
        return 0

def pathOf (place : List Bytes) : Octets :=
  if place.isEmpty then ['/'] else Octets.ofBytes (place.flatMap fun name => Files.slash :: name)

def plainPlace (start : List Bytes) (names : List Bytes) : List Bytes :=
  names.foldl (fun place name =>
    if name = [] ∨ name = bytesOf "." then place
    else if name = bytesOf ".." then place.dropLast
    else place ++ [name]) start

inductive Existence where
  | all
  | allButLast
  | nothing
  deriving DecidableEq, Repr

def realPlace (e : Existence) (path : Octets) : Exec (Except Tool.SystemError (List Bytes)) := do
  let s ← get
  let bytes := Octets.toBytes path
  match e with
  | .all => return (s.world.files.find s.working bytes).map (·.1)
  | .allButLast => return s.world.files.locate s.working (Octets.toBytes (trimSlashes path))
  | .nothing =>
      match s.world.files.locate s.working bytes with
      | .ok place => return .ok place
      | .error _ =>
          return .ok (plainPlace (if bytes.head? = some Files.slash then [] else s.working) (Files.split bytes))

def wayBetween (a b : List Bytes) : Octets :=
  let rec skip : List Bytes → List Bytes → List Bytes × List Bytes
    | x :: xs, y :: ys => if x = y then skip xs ys else (x :: xs, y :: ys)
    | xs, ys => (xs, ys)
  let (up, down) := skip a b
  let parts := (up.map fun _ => ['.', '.']) ++ down.map Octets.ofBytes
  if parts.isEmpty then ['.'] else (['/'] : Octets).intercalate parts

def realpath (who : Octets) (args : List Octets) : Exec Nat :=
  withOptions who 1 "eLmPqsz" [("canonicalize-existing", "e"), ("canonicalize-missing", "m"), ("logical", "L"),
    ("physical", "P"), ("quiet", "q"), ("relative-to=", "to"), ("relative-base=", "base"), ("strip", "s"),
    ("no-symlinks", "s"), ("zero", "z")] args fun o => do
    if o.operands.isEmpty then misuse who 1 "missing operand".toList
    else do
      let e := if o.has "e" then Existence.all else if o.has "m" then .nothing else .allButLast
      let results ← o.operands.mapM fun path => do
        let s ← get
        let bytes := Octets.toBytes path
        let place ← (if o.has "s" then
            return .ok (plainPlace (if bytes.head? = some Files.slash then [] else s.working) (Files.split bytes))
          else realPlace e path)
        match place with
        | .ok place => do
            let shown ← (match o.value? "to" with
              | some base => do
                  match ← realPlace .nothing base with
                  | .ok start => return wayBetween start place
                  | .error _ => return pathOf place
              | none => return pathOf place)
            write 1 (shown ++ [if o.has "z" then '\x00' else '\n'])
            return true
        | .error err => do
            if !o.has "q" then complain who (blamePath path err)
            return false
      return if results.all id then 0 else 1

def readlink (who : Octets) (args : List Octets) : Exec Nat :=
  withOptions who 1 "efmnqsvz" [("canonicalize", "f"), ("canonicalize-existing", "e"), ("canonicalize-missing", "m"),
    ("no-newline", "n"), ("quiet", "q"), ("silent", "q"), ("verbose", "v"), ("zero", "z")] args fun o => do
    if o.operands.isEmpty then misuse who 1 "missing operand".toList
    else do
      let canonical := (o.given.filter fun g => ["e", "f", "m"].contains g.1).getLast?.map (·.1)
      let ending := if o.has "z" then ['\x00'] else if o.has "n" && o.operands.length = 1 then [] else ['\n']
      let results ← o.operands.mapM fun path => do
        let shown ← (match canonical with
          | some "e" => do return (← realPlace .all path).map pathOf
          | some "f" => do return (← realPlace .allButLast path).map pathOf
          | some _ => do return (← realPlace .nothing path).map pathOf
          | none => do
              let s ← get
              match s.world.files.findLink s.working (Octets.toBytes path) with
              | .ok (_, .link goal) => return .ok (Octets.ofBytes goal)
              | .ok _ => return .error (.code 22)
              | .error e => return .error e)
        match shown with
        | .ok text => do
            write 1 (text ++ ending)
            return true
        | .error e => do
            if o.has "v" then complain who (blamePath path e)
            return false
      return if results.all id then 0 else 1

def printWorking (_ : Octets) (_ : List Octets) : Exec Nat := do
  write 1 (pathOf (← get).working ++ ['\n'])
  return 0

def which (_ : Octets) (args : List Octets) : Exec Nat := do
  let all := args.contains ['-', 'a']
  let names := args.filter (·.head? ≠ some '-')
  let s ← get
  let folders := Octets.splitOn (· = ':') ((s.vars.lookup "PATH".toList).getD [])
  let runs := fun (path : Octets) => match s.world.files.find s.working (Octets.toBytes path) with
    | .ok (_, .program _) => true
    | .ok (_, .file _ runs) => runs
    | _ => false
  let results ← names.mapM fun name => do
    let found := if name.contains '/' then [name].filter runs
      else (folders.map fun f => (if f.isEmpty then ['.'] else f) ++ '/' :: name).filter runs
    write 1 (Octets.unlines (if all then found else found.take 1))
    return !found.isEmpty
  return if results.all id && !names.isEmpty then 0 else 1

end LintBridge.Shell.Program
