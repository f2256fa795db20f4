import LintBridge.Shell.Program.Input
import LintBridge.Shell.Sed.Editing
import LintBridge.Shell.Sed.Reader

namespace LintBridge.Shell.Program

open Exec
open Tool (SystemError)
open Sed (Editing Source Setting Spot Pause)

structure ScriptPart where
  file : Option Octets
  text : Octets

def scriptPlace : Nat → List ScriptPart → Nat → Octets
  | n, part :: parts, offset =>
      let expressions := if part.file.isNone then n + 1 else n
      if offset ≤ part.text.length || parts.isEmpty then
        match part.file with
        | none =>
            "-e expression #".toList ++ Octets.ofNat expressions ++ ", char ".toList ++ Octets.ofNat offset
        | some path =>
            "file ".toList ++ path ++ " line ".toList ++
              Octets.ofNat (((part.text.take offset).filter (· = '\n')).length + 1)
      else scriptPlace expressions parts (offset - part.text.length - 1)
  | _, [], _ => []

def scriptEnd (parts : List ScriptPart) : Octets :=
  match parts.getLast? with
  | some ⟨some path, _⟩ => "file ".toList ++ path ++ " line 0".toList
  | _ =>
      "-e expression #".toList ++ Octets.ofNat (parts.filter (·.file.isNone)).length ++ ", char 0".toList

def readParts (who : Octets) : List (String × Octets) → Exec (List ScriptPart)
  | [] => return []
  | (key, value) :: rest => do
      if key == "f" then
        match ← readOperand value with
        | .ok text => do
            return ⟨some value, text⟩ :: (← readParts who rest)
        | .error e => do
            complain who ("couldn't open file ".toList ++ value ++ ": ".toList ++ e.plainText.toList)
            throw (.exit 4)
      else return ⟨none, value⟩ :: (← readParts who rest)

def missingLabels (script : Array Sed.Command) : List Octets :=
  script.toList.filterMap fun c =>
    let missing := fun (name : Octets) => if !name.isEmpty && (Sed.labelAt script name).isNone then some name else none
    match c.action with
    | .branch name => missing name
    | .branchIf _ name => missing name
    | _ => none

def scriptFiles (script : Array Sed.Command) : List Octets :=
  (script.toList.filterMap fun c =>
    match c.action with
    | .writeFile path => some path
    | .writeFirst path => some path
    | .substitute s => s.file
    | _ => none).eraseDups

structure EditorDesk where
  who : Octets
  setting : Setting
  script : Array Sed.Command
  faultPlace : Octets
  inPlace : Option Octets
  files : List (Octets × Nat)

structure EditorState where
  editing : Editing
  spot : Spot
  operands : List Octets
  readers : List (Octets × List (Octets × Bool)) := []
  bad : Nat := 0
  stream : Option (Nat × Octets) := none

def openSource (d : EditorDesk) (s : EditorState) : List Octets → Exec (EditorState × Option Source)
  | [] => return ({ s with operands := [] }, none)
  | path :: rest => do
      let blame := fun (status : Nat) (text : Octets) => do
        complain d.who text
        openSource d { s with bad := status } rest
      let panic := fun (text : Octets) => (do
        write 1 s.editing.out.reverse.flatten
        complain d.who text
        throw (.exit 4) : Exec (EditorState × Option Source))
      let opened ← openOperand path
      match opened with
      | .error e => blame 2 ("can't read ".toList ++ path ++ ": ".toList ++ e.plainText.toList)
      | .ok id => do
          let kind ← stream? id
          let isFile := match kind with
            | some (.input _ _) => true
            | _ => false
          if d.inPlace.isSome && !isFile then blame 4 ("couldn't edit ".toList ++ path ++ ": not a regular file".toList)
          else do
          match ← withFd 0 id (readReady 0) with
          | .error e => panic ("read error on ".toList ++ path ++ ": ".toList ++ e.plainText.toList)
          | .ok (text, closed) => do
              let stop ← (if closed then return none else do
                match ← attempt (withFd 0 id (starve 0 : Exec Unit)) with
                | .error stop => return some stop
                | .ok _ => return none)
              let text := if closed then text
                else (text.reverse.dropWhile (· ≠ d.setting.delimiter)).reverse
              let s := { s with stream := if path == ['-'] && isFile then some (id, text) else none }
              if text.isEmpty && stop.isNone && d.inPlace.isNone then openSource d s rest
              else return ({ s with operands := rest }, some ⟨path, Octets.itemsEnding d.setting.delimiter text, stop⟩)

def deliver (d : EditorDesk) (e : Editing) : Exec Editing := do
  let text := e.out.reverse.flatten
  match d.inPlace with
  | none => write 1 text
  | some suffix =>
      if e.source.name.isEmpty then pure ()
      else do
        if !suffix.isEmpty then
          match ← readPath e.source.name with
          | .ok old => do
              let copy := if suffix.contains '*' then
                  suffix.flatMap fun c => if c = '*' then e.source.name else [c]
                else e.source.name ++ suffix
              match ← openWrite copy false with
              | .ok id => withFd 1 id (write 1 old)
              | .error _ => pure ()
          | .error _ => pure ()
        match ← openWrite e.source.name false with
        | .ok id => withFd 1 id (write 1 text)
        | .error _ => pure ()
  return { e with out := [] }

def addAll (d : EditorDesk) : List Sed.Addition → EditorState → Exec EditorState
  | [], s => return { s with editing := { s.editing with additions := [] } }
  | .text t :: rest, s => addAll d rest { s with editing := s.editing.emit d.setting [] t }
  | .file path :: rest, s => do
      match ← readPath path with
      | .ok text => addAll d rest (if text.isEmpty then s else { s with editing := s.editing.emit d.setting [] text })
      | .error _ => addAll d rest s
  | .fileLine path :: rest, s => do
      let lines ← (match s.readers.lookup path with
        | some lines => return lines
        | none => do
            match ← readPath path with
            | .ok text => return Octets.itemsEnding d.setting.delimiter text
            | .error _ => return [])
      let s := { s with readers := (path, lines.tail) :: s.readers.filter (·.1 ≠ path) }
      match lines with
      | [] => addAll d rest s
      | (line, ended) :: _ => addAll d rest { s with editing := s.editing.emitLine d.setting [] line.toArray ended }

def writeFiles (d : EditorDesk) (s : EditorState) : List (Octets × Octets) → Exec EditorState
  | [] => return { s with editing := { s.editing with writes := [] } }
  | (path, text) :: rest => do
      if path == "/dev/stdout".toList && d.inPlace.isNone then
        writeFiles d { s with editing := { s.editing with out := text :: s.editing.out } } rest
      else do
        match d.files.lookup path with
        | some id => withFd 1 id (write 1 text)
        | none => pure ()
        writeFiles d s rest

def giveBack (s : EditorState) : Exec Unit := do
  match s.stream with
  | none => return ()
  | some (id, text) => do
      let unread := s.editing.source.lines.foldl (fun n (line, ended) => n + line.length + (if ended then 1 else 0)) 0
      match ← stream? id with
      | some (.input _ whole) => setStream id (.input (text.drop (text.length - unread)) whole)
      | _ => return ()

def edit (c : Caller) (d : EditorDesk) : Nat → EditorState → Exec Nat
  | 0, _ => throw .endless
  | n + 1, s => do
      let (e, spot, pause) := Sed.advance d.setting d.script 10000 s.editing s.spot
      let s := { s with editing := e, spot := spot }
      match pause with
      | .tired => do
          tick
          edit c d n s
      | .peek => do
          let e ← (if d.inPlace.isSome then deliver d e else return e)
          let (s, next) ← openSource d { s with editing := e } s.operands
          edit c d n { s with editing := { s.editing with following := some next } }
      | .starve => do
          let _ ← deliver d e
          match e.source.stop with
          | some stop => throw stop
          | none => throw .endless
      | .additions => do
          let s ← addAll d e.additions s
          edit c d n s
      | .writes => do
          let s ← writeFiles d s e.writes.reverse
          edit c d n s
      | .execute command replaces print next => do
          let (text, _, _) ← c.outputOf command
          let text' := if text.getLast? = some d.setting.delimiter then text.dropLast else text
          let e := if replaces then
              let e := { e with space := text'.toArray }
              if print then e.print d.setting else e
            else e.emit d.setting [] text
          edit c d n { s with editing := e, spot := .command next }
      | .noPrevious => do
          let _ ← deliver d e
          complain d.who (d.faultPlace ++ ": ".toList ++ Sed.Fault.noPrevious.message.toList)
          return 1
      | .ended status => do
          let _ ← deliver d e
          giveBack s
          return if status = 0 then s.bad else status

def openFiles (who : Octets) : List Octets → Exec (List (Octets × Nat))
  | [] => return []
  | path :: rest => do
      match ← openWrite path false with
      | .ok id => return (path, id) :: (← openFiles who rest)
      | .error e => do
          complain who ("couldn't open file ".toList ++ path ++ ": ".toList ++ e.plainText.toList)
          throw (.exit 4)

def sedGrammar : Grammar :=
  Grammar.read "bnEre:f:i::l:suz" [("quiet", "n"), ("silent", "n"), ("expression=", "e"), ("file=", "f"), ("in-place=?", "i"),
    ("line-length=", "l"), ("posix", "posix"), ("regexp-extended", "E"), ("separate", "s"), ("sandbox", "sandbox"),
    ("unbuffered", "u"), ("null-data", "z"), ("zero-terminated", "z"), ("follow-symlinks", "follow"), ("debug", "debug"),
    ("binary", "b")]

def sed (c : Caller) (who : Octets) (args : List Octets) : Exec Nat := do
  match sedGrammar.parse args with
  | .error e => do
      complain who e.text
      return 1
  | .ok o => do
      if o.has "help" || o.has "version" then return 0
      let given := o.given.filter fun (key, _) => key == "e" || key == "f"
      let (given, operands) := match given, o.operands with
        | [], script :: operands => ([("e", script)], operands)
        | given, operands => (given, operands)
      if given.isEmpty then return 1
      let parts ← readParts who given
      let text := (['\n'] : Octets).intercalate (parts.map (·.text))
      let quiet := o.has "n" || "#n".toList.isPrefixOf text
      match Sed.parse ⟨o.has "E" || o.has "r", o.has "sandbox"⟩ text with
      | .error p => do
          let place := match p.left with
            | some left => scriptPlace 0 parts (text.length - left)
            | none => scriptEnd parts
          complain who (place ++ ": ".toList ++ p.fault.message.toList)
          return 1
      | .ok commands => do
          let script := commands.toArray
          match missingLabels script with
          | label :: _ => do
              complain who ("can't find label for jump to `".toList ++ label ++ ['\x27'])
              return 4
          | [] => do
              let files ← openFiles who (scriptFiles script)
              let inPlace := o.value? "i"
              if inPlace.isSome && operands.isEmpty then
                complain who "no input files".toList
                return 4
              let setting : Setting := ⟨quiet, o.has "s" || inPlace.isSome, if o.has "z" then '\x00' else '\n',
                ((o.value? "l").map fun v => Octets.digitsValue (v.takeWhile Char.isDigit)).getD 70⟩
              let desk : EditorDesk := ⟨who, setting, script, scriptEnd parts, inPlace, files⟩
              let editing : Editing := { source := ⟨[], [], none⟩, ranges := Editing.firstRanges script }
              edit c desk 1000000000000 ⟨editing, .newLine, sources operands, [], 0, none⟩

end LintBridge.Shell.Program
