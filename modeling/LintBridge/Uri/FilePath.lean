import LintBridge.Uri.Reader

namespace LintBridge.Uri

def isLetterByte (b : UInt8) : Bool := (0x41 ≤ b && b ≤ 0x5A) || (0x61 ≤ b && b ≤ 0x7A)

/-- A path that ends in the name of a drive is its root directory. -/
def closeDrive (path : Bytes) : Bytes :=
  match path.reverse with
  | b :: a :: _ :: _ => if isLetterByte a && (b == 0x3A || b == 0x7C) then path ++ [0x2F] else path
  | _ => path

def segmentBytes (s : String) : Bytes := 0x2F :: unescape (bytesOf s)

/-- File URIs without a host name local files; escapes stand for bytes. -/
def filePath? (u : Uri) : Option Bytes :=
  match u.scheme, u.authority, u.path with
  | "file", some { user := none, host := none, port := none }, .segments parts =>
      some (closeDrive (parts.flatMap segmentBytes))
  | _, _, _ => none

end LintBridge.Uri
