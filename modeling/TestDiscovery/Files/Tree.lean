/-
# TestDiscovery.Files.Tree -- a file system given by a list of files

A file tree lists files and directories under a working directory.  The directories
on the way to them exist too.  `stateAt` follows a path component by component: `..`
leads back, and a slash after a file leads nowhere.
-/
import TestDiscovery.Files.Basic

namespace TestDiscovery

set_option autoImplicit false

/-- What a file tree lists under a path. -/
inductive FileNode where
  | file (bytes : List UInt8)
  | directory
  deriving DecidableEq, Repr

/-- Files and directories by the components of their paths. -/
structure FileTree where
  nodes : List (List (List UInt8) × FileNode)

namespace FileTree

/-- The tree of the listed paths. -/
def ofList (nodes : List (Path × FileNode)) : FileTree :=
  ⟨nodes.map fun (p, node) => (p.components, node)⟩

/-- What stands at some components. -/
def nodeState (t : FileTree) (here : List (List UInt8)) : FileState :=
  match t.nodes.lookup here with
  | some (.file bytes) => .contents bytes
  | some .directory => .directory
  | none => if t.nodes.any fun (p, _) => here.isPrefixOf p then .directory else .missing

/-- Follow the parts of a path from the directory `here`, or from one `above` levels over the
working directory, of which nothing but its parents is known. -/
def follow (t : FileTree) (above : Nat) (here : List (List UInt8)) :
    List (List UInt8) → FileState
  | [] => if here.isEmpty then .directory else t.nodeState here
  | part :: rest =>
    match if here.isEmpty then .directory else t.nodeState here with
    | .directory =>
      if part = [] ∨ part = [Path.dot] then t.follow above here rest
      else if part = [Path.dot, Path.dot] then
        if here.isEmpty then t.follow (above + 1) [] rest else t.follow above here.dropLast rest
      else if above = 0 then t.follow 0 (here ++ [part]) rest
      else .missing
    | .contents _ => .throughFile
    | state => state

/-- What stands at a path.  Nothing is known outside the working directory, and nothing stands at
the empty path. -/
def stateAt (t : FileTree) (p : Path) : FileState :=
  if p.bytes = [] then .missing
  else if p.isAbsolute then if p.components = [] then .directory else .missing
  else t.follow 0 [] p.parts

end FileTree

end TestDiscovery
