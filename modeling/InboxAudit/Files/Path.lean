import InboxAudit.Text.Blank

/-!
# Paths

A path is a text; its steps are the names between its slashes, of which one dot stays where it is
and two dots go up. The parent of a path is the path as it is written up to its last step.
-/

namespace InboxAudit.Files.Path
set_option autoImplicit false

open InboxAudit.Text (pieces)

/-- The path with its parts between the slashes, empty parts included. -/
def parts (path : String) : List String :=
  (pieces (· = '/') path.toList).map String.ofList

/-- The path begins at the root. -/
def isAbsolute (path : String) : Bool := path.toList.head? == some '/'

/-- The path ends in a slash, so that it must be a directory. -/
def endsInSlash (path : String) : Bool := path.toList.getLast? == some '/'

/-- The names of a path. -/
def steps (path : String) : List String := (parts path).filter (· ≠ "")

/-- The path of some parts. -/
def ofParts (parts : List String) : String := "/".intercalate parts

/-- A name that leads further down: neither empty nor dots. -/
def IsName (name : String) : Prop := name ≠ "" ∧ name ≠ "." ∧ name ≠ ".."

instance (name : String) : Decidable (IsName name) := inferInstanceAs (Decidable (_ ∧ _ ∧ _))

/-- Names that lead straight down, written without slashes. -/
def AreNames (names : List String) : Prop := ∀ name ∈ names, IsName name ∧ '/' ∉ name.toList

instance (names : List String) : Decidable (AreNames names) := inferInstanceAs (Decidable (∀ name ∈ names, _))

/-- The absolute path of the names that lead to a place from the root. -/
def fromRoot (names : List String) : String := "/" ++ ofParts names

/-- A path behind that of a directory; an absolute path stands for itself. -/
def join (directory path : String) : String :=
  if isAbsolute path then path
  else if directory = "" ∨ endsInSlash directory then directory ++ path
  else ofParts [directory, path]

/-- The parts up to the last one that is a step; one dot counts only where it begins a path. -/
def trimParts (parts : List String) : List String :=
  let isStep (part : String × Nat) : Bool := part.1 ≠ "" && (part.1 ≠ "." || part.2 = 0)
  ((parts.zipIdx.reverse.dropWhile fun part => !isStep part).reverse).map (·.1)

/-- The path that the last step of a path is in; the root and the empty path have none. -/
def parent? (path : String) : Option String :=
  match (trimParts (parts path)).reverse with
  | [] => none
  | _ :: before =>
    match trimParts before.reverse with
    | [] => if isAbsolute path then some "/" else some ""
    | rest => some (ofParts rest)

end InboxAudit.Files.Path
