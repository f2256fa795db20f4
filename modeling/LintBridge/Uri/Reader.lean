import LintBridge.Text.Decimal
import LintBridge.Uri.Basic

namespace LintBridge.Uri

inductive Kind where
  | file
  | web
  | other
  deriving DecidableEq, Repr

namespace Kind

def ofScheme (s : String) : Kind :=
  if s = "file" then .file
  else if s ∈ ["http", "https", "ws", "wss", "ftp"] then .web
  else .other

def isSpecial (k : Kind) : Bool := k != .other

end Kind

def defaultPort? : String → Option Nat
  | "http" => some 80
  | "ws" => some 80
  | "https" => some 443
  | "wss" => some 443
  | "ftp" => some 21
  | _ => none

def isIgnored (c : Char) : Bool := c == '\t' || c == '\n' || c == '\r'

def heeded (cs : List Char) : List Char := cs.filter (!isIgnored ·)

def tidy (cs : List Char) : List Char :=
  let ends (c : Char) : Bool := c.toNat ≤ 0x20
  ((cs.dropWhile ends).reverse.dropWhile ends).reverse

def isSchemeChar (c : Char) : Bool := c.isAlphanum || c == '+' || c == '-' || c == '.'

def cutScheme? (cs : List Char) : Option (String × List Char) :=
  let belongs (c : Char) : Bool := isSchemeChar c || isIgnored c
  match heeded (cs.takeWhile belongs), cs.dropWhile belongs with
  | c :: name, ':' :: rest => if c.isAlpha then some (String.ofList ((c :: name).map Host.lower), rest) else none
  | _, _ => none

/-- Splits a text at the first occurrence of a mark, which belongs to neither part. -/
def cutAt (mark : Char) (cs : List Char) : List Char × Option (List Char) :=
  match cs.dropWhile (· != mark) with
  | [] => (cs, none)
  | _ :: rest => (cs.takeWhile (· != mark), some rest)

def isSlash (k : Kind) (c : Char) : Bool := c == '/' || (k.isSpecial && c == '\\')

def cutSegments (k : Kind) : List Char → List (List Char)
  | [] => [[]]
  | c :: cs =>
      match cutSegments k cs with
      | [] => [[c]]
      | s :: ss => if isSlash k c then [] :: s :: ss else (c :: s) :: ss

def isLetter (c : Char) : Bool := ('a' ≤ c && c ≤ 'z') || ('A' ≤ c && c ≤ 'Z')

def isDrive : List Char → Bool
  | [a, b] => isLetter a && (b == ':' || b == '|')
  | _ => false

def plainDots : List Char → List Char
  | '%' :: '2' :: 'e' :: cs => '.' :: plainDots cs
  | '%' :: '2' :: 'E' :: cs => '.' :: plainDots cs
  | c :: cs => c :: plainDots cs
  | [] => []

def isDot (s : List Char) : Bool := plainDots s == ['.']

def isDotDot (s : List Char) : Bool := plainDots s == ['.', '.']

def startsWithDrive : List Char → Bool
  | a :: b :: rest => isLetter a && (b == ':' || b == '|') && (rest.isEmpty || rest.head? == some '\\')
  | _ => false

/-- Goes up one segment; the name of a drive is never left. -/
def goUp (done : List (List Char)) : List (List Char) :=
  match done with
  | [] => []
  | s :: ss => if startsWithDrive s then s :: ss else ss

def colonDrive (s : List Char) : List Char :=
  if isDrive s then s.take 1 ++ [':'] else s

/-- A drive with something behind it, the two kept apart by characters that do not count otherwise. -/
def brokenDrive? (s : List Char) : Option (List Char × List Char) :=
  match s.dropWhile isIgnored with
  | [] => none
  | a :: rest =>
      match rest.dropWhile isIgnored with
      | ':' :: b :: rest =>
          if isLetter a && isIgnored b && !(heeded rest).isEmpty then some ([a, ':'], heeded rest) else none
      | _ => none

def segmentText (s : List Char) : List Char := escape escapedInPath (heeded s)

/-- The segments already passed after one more that stands for itself. The first one of a file path may
name a drive, with a colon or a bar. -/
def passSegment (k : Kind) (done : List (List Char)) (s : List Char) : List (List Char) :=
  if k == .file && done.isEmpty then
    match brokenDrive? s with
    | some (drive, rest) => [escape escapedInPath rest, drive]
    | none => [colonDrive (segmentText s)]
  else segmentText s :: done

/-- Resolves dot segments. The segments already passed stand in reverse. -/
def resolveDots (k : Kind) : List (List Char) → List (List Char) → List (List Char)
  | done, [] => done.reverse
  | done, s :: ss =>
      if isDotDot (heeded s) then
        if ss.isEmpty then ([] :: goUp done).reverse else resolveDots k (goUp done) ss
      else if isDot (heeded s) then
        if ss.isEmpty then ([] :: done).reverse else resolveDots k done ss
      else resolveDots k (passSegment k done s) ss

def readSegments (k : Kind) (cs : List Char) : List (List Char) :=
  resolveDots k [] (cutSegments k cs)

def segmentsPath (segs : List (List Char)) : Path := .segments (segs.map String.ofList)

def filePathOf (segs : List (List Char)) : Path :=
  segmentsPath (match segs.dropWhile List.isEmpty with
    | [] => [[]]
    | ss => ss)

def readFilePath (cs : List Char) : Path := filePathOf (readSegments .file cs)

def cutFirst? (cs : List Char) : Option (Char × List Char) :=
  match cs.dropWhile isIgnored with
  | [] => none
  | c :: rest => some (c, rest)

def dropSlash (k : Kind) (cs : List Char) : List Char :=
  match cutFirst? cs with
  | some (c, rest) => if isSlash k c then rest else cs
  | none => cs

def leadToDrive : List (List Char) → List (List Char) → Bool
  | _, [] => false
  | done, s :: ss =>
      if isDotDot (heeded s) then leadToDrive (goUp done) ss
      else if isDot (heeded s) then leadToDrive done ss
      else done.isEmpty && isDrive (heeded s) || leadToDrive (passSegment .file done s) ss

/-- What follows the two slashes of a file URI: a host, which a drive at the start of the path displaces, or
nothing, or a drive in its place, which belongs to the path. Where there is no host the path keeps its own
slash, so that a drive behind it stays as it is written. -/
def readFileHost (cs : List Char) : Except Fault (Authority × Path) := do
  let name := heeded (cs.takeWhile (!isSlash .file ·))
  let after := cs.dropWhile (!isSlash .file ·)
  if isDrive name then return ({}, readFilePath cs)
  else if name.isEmpty then return ({}, readFilePath after)
  else
    let host ← Host.readSpecial name
    if host = .name "localhost" then return ({}, readFilePath after)
    else
      let rest := dropSlash .file after
      return ({ host := if leadToDrive [] (cutSegments .file rest) then none else some host }, readFilePath rest)

def readFile (cs : List Char) : Except Fault (Authority × Path) :=
  match cutFirst? cs with
  | none => .ok ({}, readFilePath cs)
  | some (a, rest) =>
      if isSlash .file a then
        match cutFirst? rest with
        | none => .ok ({}, readFilePath rest)
        | some (b, after) => if isSlash .file b then readFileHost after else .ok ({}, readFilePath rest)
      else .ok ({}, readFilePath cs)

def cutUser (cs : List Char) : Option (List Char) × List Char :=
  let host := (cs.reverse.takeWhile (· != '@')).reverse
  if host.length = cs.length then (none, cs)
  else (some (cs.take (cs.length - host.length - 1)), host)

/-- User and password, escaped; an empty password leaves no colon. -/
def userText (cs : List Char) : Option String :=
  let (name, password) := cutAt ':' cs
  let name := escape escapedInUserinfo name
  let password := escape escapedInUserinfo (password.getD [])
  let text := if password.isEmpty then name else name ++ ':' :: password
  if text.isEmpty then none else some (String.ofList text)

def cutPort : Bool → List Char → List Char × Option (List Char)
  | _, [] => ([], none)
  | inside, c :: cs =>
      if c = ':' ∧ inside = false then ([], some cs)
      else
        let inside := if c = '[' then true else if c = ']' then false else inside
        let (a, b) := cutPort inside cs
        (c :: a, b)

def maxPort : Nat := 65535

def readPort (scheme : String) : Option (List Char) → Except Fault (Option Nat)
  | none => .ok none
  | some [] => .ok none
  | some cs =>
      if cs.head? = some '+' then .error .badPort
      else match Decimal.read? maxPort cs with
        | some n => .ok (if defaultPort? scheme = some n then none else some n)
        | none => .error .badPort

/-- The part between two slashes and the path, and what is left for the path: after a port a backslash begins
one too. An at sign with nothing before it needs a host if anything follows. -/
def readAuthority (scheme : String) (k : Kind) (followed : Bool) (cs : List Char) :
    Except Fault (Authority × List Char) := do
  let (user, rest) := cutUser cs
  let (name, port) := cutPort false rest
  let userMissesHost := (user == some [] && followed) || (user.bind userText).isSome
  if name.isEmpty && (k == .web || port.isSome || userMissesHost) then .error .emptyHost
  else
    let host ← if name.isEmpty then pure none
      else if k == .web then (Host.readSpecial name).map some else (Host.readPlain name).map some
    let digits := port.map (·.takeWhile (· != '\\'))
    return ({ user := user.bind userText, host := host, port := ← readPort scheme digits },
      (port.getD []).dropWhile (· != '\\'))

def pathAfterAuthority (k : Kind) (cs : List Char) : Path :=
  match cs with
  | [] => if k.isSpecial then .segments [""] else .segments []
  | cs => segmentsPath (readSegments k (dropSlash k cs))

def readLocation (scheme : String) (k : Kind) (followed : Bool) (cs : List Char) : Except Fault (Authority × Path) := do
  let after := cs.dropWhile (!isSlash k ·)
  let (a, left) ← readAuthority scheme k (followed || !after.isEmpty) (cs.takeWhile (!isSlash k ·))
  return (a, pathAfterAuthority k (left ++ after))

def readHierarchy (scheme : String) (followed : Bool) (cs : List Char) : Except Fault (Option Authority × Path) := do
  let k := Kind.ofScheme scheme
  match k with
  | .file =>
      let (a, p) ← readFile cs
      return (some a, p)
  | .web =>
      let (a, p) ← readLocation scheme k followed ((heeded cs).dropWhile (isSlash k))
      return (some a, p)
  | .other =>
      match heeded cs with
      | '/' :: '/' :: rest =>
          let (a, p) ← readLocation scheme k followed rest
          return (some a, p)
      | '/' :: rest => return (none, segmentsPath (readSegments k rest))
      | cs => return (none, .plain (String.ofList (escape isUnsafeAnywhere cs)))

def readText (cs : List Char) : Except Fault Uri := do
  match cutScheme? (tidy cs) with
  | none => .error .noScheme
  | some (scheme, rest) =>
      let (rest, fragment) := cutAt '#' rest
      let (rest, query) := cutAt '?' rest
      let (authority, path) ← readHierarchy scheme (query.isSome || fragment.isSome) rest
      let inQuery := if (Kind.ofScheme scheme).isSpecial then escapedInSpecialQuery else escapedInQuery
      return {
        scheme := scheme
        authority := authority
        path := path
        query := query.map fun q => String.ofList (escape inQuery (heeded q))
        fragment := fragment.map fun f => String.ofList (escape escapedInFragment (heeded f)) }

def parse (s : String) : Except Fault Uri := readText s.toList

end LintBridge.Uri
