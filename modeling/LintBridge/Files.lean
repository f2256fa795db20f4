import LintBridge.Text.Utf8
import LintBridge.Tool.Failure

namespace LintBridge

inductive Node where
  | file (content : Bytes) (runs : Bool)
  | directory
  | void
  | zeros
  | full
  | program (name : String)
  | link (path : Bytes)
  deriving DecidableEq, Repr

structure Files where
  nodes : List (List Bytes × Node)
  deriving DecidableEq, Repr

namespace Files

open Tool (SystemError)

def slash : UInt8 := 0x2F

def split : Bytes → List Bytes
  | [] => [[]]
  | b :: bs =>
      match split bs with
      | [] => [[b]]
      | part :: parts => if b = slash then [] :: part :: parts else (b :: part) :: parts

def names (path : Bytes) : List Bytes := (split path).filter (!·.isEmpty)

def get? (f : Files) (place : List Bytes) : Option Node :=
  if place.isEmpty then some .directory else f.nodes.lookup place

def put (f : Files) (place : List Bytes) (node : Node) : Files :=
  ⟨(place, node) :: f.nodes.filter (·.1 ≠ place)⟩

def remove (f : Files) (place : List Bytes) : Files := ⟨f.nodes.filter (·.1 ≠ place)⟩

def parents (place : List Bytes) : List (List Bytes) :=
  (List.range place.length).map (place.take ·)

def addFile (f : Files) (path : Bytes) (content : Bytes) : Files :=
  let place := names path
  let f := (parents place).foldl
    (fun f p => if p.isEmpty || (f.get? p).isSome then f else f.put p .directory) f
  f.put place (.file content false)

def programs : List String := [
  "[", "arch", "awk", "b2sum", "base32", "base64", "basename", "bash", "basenc", "cat", "chmod", "chown", "cksum", "cmp",
  "comm", "cp", "csplit", "cut", "dash", "date", "dd", "df", "diff", "dir", "dirname", "du", "echo", "egrep", "env",
  "expand", "expr", "factor", "false", "fgrep", "find", "fmt", "fold", "getent", "grep", "groups", "head", "hostid",
  "hostname", "iconv", "id", "install", "join", "kill", "link", "ln", "locale", "logname", "ls", "mawk", "md5sum",
  "mkdir", "mkfifo", "mknod", "mktemp", "more", "mv", "nawk", "nice", "nl", "nohup", "nproc", "numfmt", "od", "paste", "pathchk",
  "perl", "pr", "printenv", "printf", "ptx", "pwd", "readlink", "realpath", "rev", "rm", "rmdir", "sdiff", "sed", "seq", "setsid",
  "sh", "sha1sum", "sha224sum", "sha256sum", "sha384sum", "sha512sum", "shred", "shuf", "sleep", "sort", "split", "stat",
  "stdbuf", "stty", "sum", "sync", "tac", "tail", "tee", "test", "timeout", "touch", "tr", "true", "truncate", "tsort",
  "tty", "uname", "unexpand", "uniq", "unlink", "users", "vdir", "wc", "which", "who", "whoami", "xargs", "yes"]

def standard : Files :=
  let directories := ["boot", "dev", "etc", "home", "media", "mnt", "opt", "proc", "root", "run", "srv", "sys", "tmp", "usr",
    "usr/bin", "usr/include", "usr/lib", "usr/local", "usr/local/bin", "usr/sbin", "usr/share", "var", "var/log",
    "var/tmp"]
  let files := [("etc/passwd", "root:x:0:0:root:/root:/bin/bash\n"), ("etc/group", "root:x:0:\n"),
    ("etc/hostname", "localhost\n"), ("etc/hosts", "127.0.0.1\tlocalhost\n")]
  let links := [("bin", "usr/bin"), ("lib", "usr/lib"), ("sbin", "usr/sbin")]
  let devices := [("dev/null", Node.void), ("dev/zero", .zeros), ("dev/full", .full), ("dev/random", .zeros),
    ("dev/urandom", .zeros), ("dev/stdin", .void), ("dev/stdout", .void), ("dev/stderr", .void), ("dev/tty", .void)]
  ⟨directories.map (fun d => (names (bytesOf d), .directory)) ++
    files.map (fun (path, text) => (names (bytesOf path), .file (bytesOf text) false)) ++
    links.map (fun (path, goal) => (names (bytesOf path), .link (bytesOf goal))) ++
    devices.map (fun (path, node) => (names (bytesOf path), node)) ++
    programs.map (fun name => (["usr", "bin", name].map bytesOf, .program name))⟩

def maxName : Nat := 255
def maxPath : Nat := 4096

def maxLinks : Nat := 40

def linkStart (place : List Bytes) (path : Bytes) : List Bytes :=
  if path.head? = some slash then [] else place

/-- Follows names from a place. Every name, the empty one after a last slash too, asks for a directory to
look it up in. A link in the last place is followed on demand. -/
def walk (f : Files) (follow : Bool) (links : Nat) (place : List Bytes) :
    List Bytes → Except SystemError (List Bytes)
  | [] => .ok place
  | part :: parts =>
      if f.get? place ≠ some .directory then .error .notADirectory
      else if part = [] ∨ part = bytesOf "." then f.walk follow links place parts
      else if part = bytesOf ".." then f.walk follow links place.dropLast parts
      else if part.length > maxName then .error .nameTooLong
      else match f.get? (place ++ [part]) with
        | some (.link path) =>
            if parts = [] ∧ !follow then .ok (place ++ [part])
            else match links with
              | 0 => .error (.code 40)
              | links + 1 => f.walk follow links (linkStart place path) (split path ++ parts)
        | some _ => f.walk follow links (place ++ [part]) parts
        | none => if parts ≠ [] then .error .notFound else .ok (place ++ [part])
  termination_by parts => (links, parts.length)

/-- The place that a path means, seen from a working directory. The last name need not exist. -/
def locateWith (follow : Bool) (f : Files) (working : List Bytes) (path : Bytes) : Except SystemError (List Bytes) :=
  if path.contains 0 then .error (.other "file name contained an unexpected NUL byte")
  else if path = [] then .error .notFound
  else if path.length ≥ maxPath then .error .nameTooLong
  else f.walk follow maxLinks (if path.head? = some slash then [] else working) (split path)

def locate (f : Files) (working : List Bytes) (path : Bytes) : Except SystemError (List Bytes) :=
  locateWith true f working path

def nodeAt (f : Files) (place : List Bytes) : Except SystemError (List Bytes × Node) :=
  match f.get? place with
  | some node => .ok (place, node)
  | none => .error .notFound

def find (f : Files) (working : List Bytes) (path : Bytes) : Except SystemError (List Bytes × Node) := do
  f.nodeAt (← f.locate working path)

def findLink (f : Files) (working : List Bytes) (path : Bytes) : Except SystemError (List Bytes × Node) := do
  f.nodeAt (← locateWith false f working path)

def makeDirectories (f : Files) (path : Bytes) : Except SystemError Files :=
  let place := names path
  (parents place ++ [place]).foldlM (fun f p =>
    match f.get? p with
    | some .directory => .ok f
    | some _ => .error (if p = place then .code 17 else .notADirectory)
    | none => .ok (f.put p .directory)) f

def entries (f : Files) (place : List Bytes) : List Bytes :=
  f.nodes.filterMap fun (node, _) =>
    if node.dropLast = place then node.getLast? else none

end Files

end LintBridge
