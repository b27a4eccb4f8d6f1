/-!
# File errors

Why an operation on files or programs fails, with the wording and the numbers of the operating
system.
-/

namespace InboxAudit.Files
set_option autoImplicit false

/-- Why an operation on files fails. -/
inductive FileError where
  | notFound
  | denied
  | alreadyExists
  | notDirectory
  | isDirectory
  | nameTooLong
  /-- A path with a character that no name may hold. -/
  | nulInName
  /-- A program with such a path. -/
  | nulInProgram
  /-- Anything else, in the words of the operating system. -/
  | other (text : String)
  deriving Repr, DecidableEq

/-- The error in words. -/
def FileError.message : FileError → String
  | .notFound => "No such file or directory (os error 2)"
  | .denied => "Permission denied (os error 13)"
  | .alreadyExists => "File exists (os error 17)"
  | .notDirectory => "Not a directory (os error 20)"
  | .isDirectory => "Is a directory (os error 21)"
  | .nameTooLong => "File name too long (os error 36)"
  | .nulInName => "file name contained an unexpected NUL byte"
  | .nulInProgram => "nul byte found in provided data"
  | .other text => text

end InboxAudit.Files
