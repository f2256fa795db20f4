import LintBridge.Program
import LintBridge.Server.Wire

namespace LintBridge.Main

partial def readHeader (input : IO.FS.Stream) (length : Option Nat) : IO (Option Nat) := do
  let line ← input.getLine
  if line.isEmpty then return none
  else if line.trimAscii.isEmpty then
    match length with
    | some n => return some n
    | none => readHeader input none
  else readHeader input ((Wire.contentLength? line).or length)

partial def readBody (input : IO.FS.Stream) (left : Nat) (body : ByteArray) : IO ByteArray := do
  if left = 0 then return body
  let piece ← input.read left.toUSize
  if piece.isEmpty then return body
  readBody input (left - piece.size) (body ++ piece)

def readMessage (input : IO.FS.Stream) : IO (Option String) := do
  match ← readHeader input none with
  | none => return none
  | some length => return some (textOf (← readBody input length .empty).toList)

def logLine (e : Log.Entry) : String :=
  (Json.obj [("level", .str e.level.name), ("fields", .obj [("message", .str e.message)]),
    ("target", .str e.area.target)]).print

def writeLog (log : IO.FS.Handle) (before after : Program) : IO Unit := do
  for e in after.log.drop before.log.length do log.putStrLn (logLine e)
  log.flush

def sendAll (output : IO.FS.Stream) (number : Nat) (effects : List Effect) : IO Unit := do
  for v in Wire.encode number effects do output.putStr (Wire.frame v)
  output.flush

def loadFile (files : Files) (path : Bytes) : IO Files := do
  try
    let content ← IO.FS.readBinFile (textOf path)
    return files.addFile path content.toList
  catch _ => return files

def loadParents (files : Files) (path : Bytes) : IO Files := do
  let mut files := files
  for place in Files.parents (Files.names path) ++ [Files.names path] do
    if !place.isEmpty then
      try
        let real ← IO.FS.realPath ("/" ++ "/".intercalate (place.map textOf))
        if ← real.isDir then files := files.put place .directory
        else if ← real.pathExists then files := files.put place (.file [] false)
      catch _ => pure ()
  return files

def withFiles (p : Program) (files : Files) : Program := { p with host := { p.host with files := files } }

partial def serve (input output : IO.FS.Stream) (log : IO.FS.Handle) (start : Nat) (p : Program)
    (reader : Task (Except IO.Error (Option String))) : IO Program := do
  let (q, effects) := p.advance ((← IO.monoNanosNow) - start)
  sendAll output p.nextRequest effects
  writeLog log p q
  if q.isOver then return q
  else if ← IO.hasFinished reader then
    match reader.get with
    | .error _ => return q
    | .ok none => return q
    | .ok (some text) =>
        let (r, effects) ← (match Wire.ofText? text with
          | some (.message m) => do
              let files ← (q.documents m).foldlM loadFile q.host.files
              return (withFiles q files).receive m
          | some (.answer number a) => return q.answer number a
          | none => return (q, []))
        sendAll output q.nextRequest effects
        writeLog log q r
        serve input output log start r (← IO.asTask (readMessage input))
  else do
    IO.sleep 5
    serve input output log start q reader

def environment : IO Environment := do
  let dataHome ← IO.getEnv "XDG_DATA_HOME"
  let home ← IO.getEnv "HOME"
  let logFilter ← IO.getEnv "RUST_LOG"
  return { dataHome := dataHome.map bytesOf, home := home.map bytesOf, logFilter := logFilter }

end LintBridge.Main

open LintBridge in
def main (args : List String) : IO UInt32 := do
  let env ← Main.environment
  let directory := Config.dataDir env.dataHome env.home
  let files ← Main.loadParents .standard directory
  match Program.launch args env files with
  | .ends n _ => do
      IO.print n.stdout
      IO.eprint n.stderr
      return n.status.toUInt32
  | .serves p => do
      IO.FS.createDirAll (textOf directory)
      let log ← IO.FS.Handle.mk (textOf p.logPath) .append
      for e in p.log do log.putStrLn (Main.logLine e)
      let input ← IO.getStdin
      let output ← IO.getStdout
      let reader ← IO.asTask (Main.readMessage input)
      let q ← Main.serve input output log (← IO.monoNanosNow) p reader
      Main.writeLog log q q.stop
      return 0
