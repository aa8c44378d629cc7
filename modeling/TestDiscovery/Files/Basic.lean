/-
# TestDiscovery.Files.Basic -- what stands at a path

The program only ever reads files.  All it can learn of the file system is the
state of a path: whether a file stands there, and its contents or the reason why
they cannot be had.
-/
import TestDiscovery.Files.Path

namespace TestDiscovery

set_option autoImplicit false

open TestDiscovery.Text

/-- What stands at a path. -/
inductive FileState where
  | contents (bytes : List UInt8)
  | directory
  | missing
  /-- The path goes on after a file as if that were a directory. -/
  | throughFile
  /-- Something that can be read and is no file, as a pipe or a device. -/
  | stream (bytes : List UInt8)
  /-- Anything else that the system does not let read, with its wording. -/
  | refused (isFile : Bool) (message : String)
  deriving DecidableEq, Repr

/-- The file system, as far as reading goes. -/
abbrev FileSystem := Path → FileState

/-- Why the text of a file cannot be had. -/
inductive ReadFault where
  | missing
  | isDirectory
  | notDirectory
  | notText
  | refused (message : String)
  deriving DecidableEq, Repr

/-- The wording of the fault. -/
def ReadFault.message : ReadFault → String
  | .missing => "No such file or directory (os error 2)"
  | .isDirectory => "Is a directory (os error 21)"
  | .notDirectory => "Not a directory (os error 20)"
  | .notText => "stream did not contain valid UTF-8"
  | .refused message => message

namespace FileState

/-- A file stands at the path. -/
def isFile : FileState → Bool
  | .contents _ => true
  | .refused isFile _ => isFile
  | _ => false

/-- The text that stands at the path. -/
def text : FileState → Except ReadFault String
  | .contents bytes | .stream bytes =>
    match Utf8.decode? bytes with
    | some s => .ok s
    | none => .error .notText
  | .directory => .error .isDirectory
  | .missing => .error .missing
  | .throughFile => .error .notDirectory
  | .refused _ message => .error (.refused message)

end FileState

end TestDiscovery
