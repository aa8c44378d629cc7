/-
# TestDiscovery.Files.Path -- paths as bytes

A path is a list of bytes that need not be text.  Two paths are the same
(`Path.same`, written `==`) when they have the same components: doubled and
trailing slashes and components `.` make no difference, except for a `.` that
starts a relative path.  `..` is a component like any other.
-/
import TestDiscovery.Text.Utf8

namespace TestDiscovery

set_option autoImplicit false

open TestDiscovery.Text

/-- A path, byte for byte as it was given. -/
structure Path where
  bytes : List UInt8
  deriving Repr

namespace Path

/-- The byte of a slash. -/
def slash : UInt8 := 0x2F

/-- The byte of a full stop. -/
def dot : UInt8 := 0x2E

/-- The path of a text. -/
def ofText (s : String) : Path := ⟨Utf8.encode s⟩

/-- The text of the path, if it is one. -/
def text? (p : Path) : Option String := Utf8.decode? p.bytes

/-- The path as it is shown, with a replacement character for damaged parts. -/
def display (p : Path) : String := Utf8.lossy p.bytes

/-- The path starts at the root of the file system. -/
def isAbsolute (p : Path) : Bool := p.bytes.head? == some slash

/-- The parts between slashes. -/
def parts (p : Path) : List (List UInt8) := p.bytes.splitOn slash

/-- The components: the parts that are neither empty nor `.`, and the `.` that starts a relative
path. -/
def components (p : Path) : List (List UInt8) :=
  let named := p.parts.filter fun part => part != [] && part != [dot]
  if p.parts.head? = some [dot] then [dot] :: named else named

/-- Equality of paths by their components. -/
def same (p q : Path) : Bool := p.isAbsolute == q.isAbsolute && p.components == q.components

instance : BEq Path := ⟨same⟩

/-- The path of a name inside a directory; an absolute name stands for itself. -/
def join (directory : Path) (name : String) : Path :=
  let name := Utf8.encode name
  if name.head? = some slash then ⟨name⟩
  else match directory.bytes.getLast? with
    | none => ⟨name⟩
    | some last =>
      if last = slash then ⟨directory.bytes ++ name⟩ else ⟨directory.bytes ++ slash :: name⟩

end Path

end TestDiscovery
