import LintBridge.Shell.Program.Awk
import LintBridge.Shell.Program.Characters
import LintBridge.Shell.Program.Columns
import LintBridge.Shell.Program.Comparison
import LintBridge.Shell.Program.Digest
import LintBridge.Shell.Program.Encoding
import LintBridge.Shell.Program.Finder
import LintBridge.Shell.Program.Lines
import LintBridge.Shell.Program.Numbers
import LintBridge.Shell.Program.Order
import LintBridge.Shell.Program.Paragraphs
import LintBridge.Shell.Program.Paths
import LintBridge.Shell.Program.Printing
import LintBridge.Shell.Program.Runner
import LintBridge.Shell.Program.Scaling
import LintBridge.Shell.Program.Search
import LintBridge.Shell.Program.Sed
import LintBridge.Shell.Program.System

namespace LintBridge.Shell.Program

open Exec

def plain? (name : String) : Option (Octets → List Octets → Exec Nat) :=
  match name with
  | "[" => some bracket
  | "arch" => some (printLine "x86_64")
  | "base32" => some base32
  | "base64" => some base64
  | "basename" => some basename
  | "basenc" => some basenc
  | "cat" => some cat
  | "chmod" => some chmod
  | "chown" => some chown
  | "cksum" => some cksum
  | "cmp" => some cmp
  | "comm" => some comm
  | "cp" => some cp
  | "cut" => some cut
  | "date" => some date
  | "dd" => some dd
  | "diff" => some diff
  | "dir" => some ls
  | "dirname" => some dirname
  | "echo" => some echo
  | "egrep" => some egrep
  | "expand" => some expandTabs
  | "expr" => some expr
  | "factor" => some factor
  | "fgrep" => some fgrep
  | "fmt" => some fmt
  | "fold" => some fold
  | "grep" => some grep
  | "groups" => some (printLine "root")
  | "head" => some head
  | "hostname" => some (printLine "localhost")
  | "id" => some identity
  | "join" => some join
  | "link" => some ln
  | "ln" => some ln
  | "logname" => some logname
  | "ls" => some ls
  | "mkdir" => some mkdir
  | "mktemp" => some mktemp
  | "more" => some cat
  | "mv" => some mv
  | "nl" => some nl
  | "nproc" => some (printLine "1")
  | "numfmt" => some numfmt
  | "od" => some od
  | "paste" => some paste
  | "printenv" => some printenv
  | "printf" => some printf
  | "pwd" => some printWorking
  | "readlink" => some readlink
  | "realpath" => some realpath
  | "rev" => some rev
  | "rm" => some rm
  | "rmdir" => some rmdir
  | "sdiff" => some sdiff
  | "seq" => some seq
  | "shred" => some rm
  | "shuf" => some shuf
  | "sleep" => some sleepProgram
  | "sort" => some sort
  | "split" => some split
  | "stat" => some stat
  | "sum" => some sumFiles
  | "tac" => some tac
  | "tail" => some tail
  | "tee" => some tee
  | "test" => some test
  | "touch" => some touch
  | "tr" => some tr
  | "truncate" => some truncate
  | "tsort" => some tsort
  | "tty" => some tty
  | "uname" => some uname
  | "unexpand" => some unexpandTabs
  | "uniq" => some uniq
  | "unlink" => some unlink
  | "vdir" => some ls
  | "wc" => some wc
  | "which" => some which
  | "whoami" => some (printLine "root")
  | "yes" => some yes
  | _ => none

def calling? (name : String) : Option (Caller → Octets → List Octets → Exec Nat) :=
  match name with
  | "awk" => some awk
  | "env" => some env
  | "find" => some find
  | "mawk" => some awk
  | "nawk" => some awk
  | "nice" => some nice
  | "nohup" => some nohup
  | "sed" => some sed
  | "setsid" => some setsid
  | "stdbuf" => some stdbuf
  | "timeout" => some timeout
  | "xargs" => some xargs
  | _ => none

def digestOf? (name : String) : Option DigestKind :=
  if name == "b2sum" then digestKind? "blake2b"
  else (name.dropSuffix? "sum").bind fun kind => digestKind? kind.toString

/-- Runs the program of a name. Those that only tell the machine something have nothing to do. -/
def run (c : Caller) (name : String) (who : Octets) (args : List Octets) : Exec Nat :=
  match plain? name, calling? name, digestOf? name with
  | some body, _, _ => body who args
  | none, some body, _ => body c who args
  | none, none, some kind => digestSum kind who args
  | none, none, none => return if name == "false" then 1 else 0

end LintBridge.Shell.Program
