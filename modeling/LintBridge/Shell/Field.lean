import LintBridge.Files
import LintBridge.Shell.Pattern

namespace LintBridge.Shell

/-- How a character came into a word: quoted, written in the script, or from an expansion. -/
inductive Origin where
  | quoted
  | written
  | expanded
  deriving DecidableEq, Repr

inductive Glyph where
  | char (c : Char) (o : Origin)
  | emptyQuotes
  | border
  deriving DecidableEq, Repr

namespace Glyph

def text (o : Origin) (cs : Octets) : List Glyph := cs.map (.char · o)

/-- An expansion as glyphs; a quoted empty one still makes a field. -/
def ofValue (quoted : Bool) (cs : Octets) : List Glyph :=
  if quoted then (if cs.isEmpty then [.emptyQuotes] else text .quoted cs) else text .expanded cs

def flat (gs : List Glyph) : Octets := gs.filterMap fun
  | .char c _ => some c
  | .emptyQuotes => none
  | .border => some ' '

def marked (gs : List Glyph) : List (Char × Bool) := gs.filterMap fun
  | .char c o => some (c, o == .quoted)
  | .emptyQuotes => none
  | .border => some (' ', false)

/-- A field being built: its characters, newest first, whether it exists, and whether blanks have just
ended the one before. -/
structure Field where
  chars : List (Char × Bool) := []
  begun : Bool := false
  afterBlank : Bool := false

/-- Splits a word into fields at the separators that came from expansions; the fields that are done come with the last
one first. -/
def splitFrom (separators : Octets) : Field → List (List (Char × Bool)) → List Glyph → List (List (Char × Bool))
  | f, done, [] => (if f.begun then f.chars.reverse :: done else done).reverse
  | f, done, .border :: gs => splitFrom separators {} (if f.begun then f.chars.reverse :: done else done) gs
  | f, done, .emptyQuotes :: gs => splitFrom separators { f with begun := true, afterBlank := false } done gs
  | f, done, .char c o :: gs =>
      if o == .expanded && separators.contains c then
        if c = ' ' || c = '\t' || c = '\n' then
          if f.begun then splitFrom separators { afterBlank := true } (f.chars.reverse :: done) gs
          else splitFrom separators f done gs
        else if f.begun then splitFrom separators {} (f.chars.reverse :: done) gs
        else if f.afterBlank then splitFrom separators {} done gs
        else splitFrom separators {} ([] :: done) gs
      else splitFrom separators { chars := (c, o == .quoted) :: f.chars, begun := true } done gs

def split (separators : Octets) (gs : List Glyph) : List (List (Char × Bool)) := splitFrom separators {} [] gs

end Glyph

def globFrom (files : Files) (place : List Bytes) (before : Octets) : List (List (Char × Bool)) → List Octets
  | [] => []
  | part :: parts =>
      let p := Pattern.read part
      let go := fun (name : Octets) =>
        let path := before ++ name
        if parts.isEmpty then [path]
        else match files.walk true Files.maxLinks place [Octets.toBytes name] with
          | .ok place => if files.get? place == some .directory then globFrom files place (path ++ ['/']) parts else []
          | .error _ => []
      if p.isMagic then
        let names := (['.'] :: ['.', '.'] :: (files.entries place).map Octets.ofBytes).filter fun name =>
          Pattern.accepts p name && (name.head? != some '.' || p.head? == some (.char '.'))
        (names.mergeSort Octets.le).flatMap go
      else
        let name := p.filterMap fun
          | .char c => some c
          | _ => none
        if name.isEmpty then (if parts.isEmpty then [before] else globFrom files place (before ++ ['/']) parts)
        else if name == ['.'] || name == ['.', '.'] || (files.get? (place ++ [Octets.toBytes name])).isSome then go name
        else []

def splitPath (cs : List (Char × Bool)) : List (List (Char × Bool)) :=
  cs.foldr (fun c parts =>
    match parts with
    | [] => [[c]]
    | part :: parts => if c.1 = '/' then [] :: part :: parts else (c :: part) :: parts) [[]]

def glob (files : Files) (working : List Bytes) (field : List (Char × Bool)) : List Octets :=
  let plain := field.map (·.1)
  if (Pattern.read field).isMagic then
    let absolute := plain.head? = some '/'
    let found := globFrom files (if absolute then [] else working) (if absolute then ['/'] else [])
      (splitPath (if absolute then field.drop 1 else field))
    if found.isEmpty then [plain] else found
  else [plain]

end LintBridge.Shell
