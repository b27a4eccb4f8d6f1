import InboxAudit.Collections.Table
import InboxAudit.Files.Error
import InboxAudit.Files.Path
import InboxAudit.Text.Utf8

/-!
# Disks

A disk is a tree of directories and files, each with its permission bits, and one place in it is the
working directory. Paths are followed name by name, from the root or from the working directory: every
step but the last must be a directory, and two dots lead to the directory above, which the root is to
itself. New files and directories are not writable for others. There are no links, and whoever works on
the disk may read and write everything: permission bits are kept and shown, but nobody is kept out.
-/

namespace InboxAudit.Files
set_option autoImplicit false

/-- What a disk holds under a path. -/
inductive Node where
  | directory (mode : Nat)
  | file (mode : Nat) (content : List UInt8)
  deriving Repr, DecidableEq

/-- The permission bits. -/
def Node.mode : Node → Nat
  | .directory mode => mode
  | .file mode _ => mode

/-- The node with other permission bits. -/
def Node.setMode (mode : Nat) : Node → Node
  | .directory _ => .directory mode
  | .file _ content => .file mode content

/-- The node is a directory. -/
def Node.isDirectory : Node → Bool
  | .directory _ => true
  | .file _ _ => false

/-- A place in a tree, by the names that lead to it from the root. -/
abbrev Place := List String

/-- A tree with nodes under their absolute paths, and the place that relative paths are followed from. -/
structure Disk where
  nodes : Table Node
  working : Place
  named : Path.AreNames working := by decide
  deriving Repr, DecidableEq

namespace Disk

/-- Nothing but the root, where the work is done. -/
def empty : Disk := { nodes := [], working := [] }

/-- What is at a place; the root is a directory. -/
def node? (disk : Disk) : Place → Option Node
  | [] => some (.directory 0o755)
  | first :: rest => disk.nodes.get? (Path.fromRoot (first :: rest))

/-- The path of the working directory, which may have gone. -/
def workingDirectory (disk : Disk) : Except FileError String :=
  match disk.node? disk.working with
  | some (.directory _) => .ok (Path.fromRoot disk.working)
  | _ => .error .notFound

/-- One step from a place, which must be a directory. -/
def step (disk : Disk) (place : Place) (name : String) : Except FileError Place :=
  match disk.node? place with
  | none => .error .notFound
  | some (.file _ _) => .error .notDirectory
  | some (.directory _) =>
    if name.utf8ByteSize > 255 then .error .nameTooLong
    else if name = "." then .ok place
    else if name = ".." then .ok place.dropLast
    else .ok (place ++ [name])

/-- What every path must be like. -/
def check (path : String) : Except FileError Unit :=
  if path.contains '\x00' then .error .nulInName
  else if path = "" then .error .notFound
  else if path.utf8ByteSize ≥ 4096 then .error .nameTooLong
  else .ok ()

/-- The place that some steps lead to. -/
def follow (disk : Disk) (path : String) (steps : List String) : Except FileError Place := do
  check path
  steps.foldlM disk.step (if Path.isAbsolute path then [] else disk.working)

/-- What a path leads to. -/
def find (disk : Disk) (path : String) : Except FileError (Place × Node) := do
  let place ← disk.follow path (Path.steps path)
  match disk.node? place with
  | none => .error .notFound
  | some (.file mode content) =>
    if Path.endsInSlash path then .error .notDirectory else return (place, .file mode content)
  | some node => return (place, node)

/-- The directory that the last step of a path is taken in, and that step. Nothing is returned where
the path ends in dots or at the root: it is a directory then. -/
def findLast (disk : Disk) (path : String) : Except FileError (Option (Place × String)) := do
  match (Path.steps path).reverse with
  | [] => do check path; return none
  | last :: before =>
    let place ← disk.follow path before.reverse
    match disk.node? place with
    | none => .error .notFound
    | some (.file _ _) => .error .notDirectory
    | some (.directory _) =>
      if last = "." ∨ last = ".." then return none else return some (place, last)

/-- The disk with a node at a place; the root stays as it is. -/
def put (disk : Disk) : Place → Node → Disk
  | [], _ => disk
  | first :: rest, node => { disk with nodes := disk.nodes.put (Path.fromRoot (first :: rest)) node }

/-- What is known of a path without reading it: its permission bits, and whether it is a
directory. -/
def stat (disk : Disk) (path : String) : Except FileError Node := do
  return (← disk.find path).2

/-- The content of a file. -/
def read (disk : Disk) (path : String) : Except FileError (List UInt8) := do
  match (← disk.find path).2 with
  | .file _ content => return content
  | .directory _ => .error .isDirectory

/-- The permission bits that a new node gets of those that are asked for. -/
def allowed (mode : Nat) : Nat := mode &&& 0o755

/-- The disk with a file of the given content in place of what the file held before. Only a new file
gets the permission bits. -/
def write (disk : Disk) (path : String) (mode : Nat) (content : List UInt8) :
    Except FileError Disk := do
  match ← disk.findLast path with
  | none => .error .isDirectory
  | some (place, last) =>
    if Path.endsInSlash path then .error .isDirectory
    else
      let target ← disk.step place last
      match disk.node? target with
      | some (.directory _) => .error .isDirectory
      | some (.file old _) => return disk.put target (.file old content)
      | none => return disk.put target (.file (allowed mode) content)

/-- The disk with a new directory. -/
def makeDirectory (disk : Disk) (path : String) : Except FileError Disk := do
  match ← disk.findLast path with
  | none => .error .alreadyExists
  | some (place, last) =>
    let target ← disk.step place last
    match disk.node? target with
    | some _ => .error .alreadyExists
    | none => return disk.put target (.directory (allowed 0o777))

/-- The disk without a file. -/
def remove (disk : Disk) (path : String) : Except FileError Disk := do
  match ← disk.findLast path with
  | none => .error .isDirectory
  | some (place, last) =>
    let target ← disk.step place last
    match disk.node? target with
    | none => .error .notFound
    | some (.directory _) => .error .isDirectory
    | some (.file _ _) =>
      if Path.endsInSlash path then .error .notDirectory
      else return { disk with nodes := disk.nodes.erase (Path.fromRoot target) }

/-- The disk with other permission bits of a node. -/
def setMode (disk : Disk) (path : String) (mode : Nat) : Except FileError Disk := do
  let (place, node) ← disk.find path
  return disk.put place (node.setMode mode)

/-- All absolute paths in ascending order, directories with a slash at their end. -/
def listing (disk : Disk) : List String :=
  (disk.nodes.map fun entry => if entry.2.isDirectory then entry.1 ++ "/" else entry.1).mergeSort
    fun a b => decide (a ≤ b)

end Disk

end InboxAudit.Files
