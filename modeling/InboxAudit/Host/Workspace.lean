import InboxAudit.Files.Disk
import InboxAudit.Host.Basic

/-!
# Workspaces

A workspace is a host that is a value: a disk, an environment, a time that only pauses move, and
the output and the log so far. Programs are the executable files of the disk; those named without a
slash are looked for in one directory. All of them do the same.
-/

namespace InboxAudit.Host
set_option autoImplicit false

open InboxAudit.Files (Disk FileError Node)

/-- A host that is a value. `ran` holds the arguments of the programs that were run. -/
structure Workspace where
  disk : Disk
  environment : Table String
  programs : String
  program : ProgramResult
  ran : List (List String)
  now : Time.Instant
  output : String
  log : List Log.Line

namespace Workspace

/-- A workspace with an empty disk, a silent program and nothing else. -/
def empty : Workspace := ⟨.empty, [], "bin", ⟨.exit 0, [], []⟩, [], ⟨0, 0⟩, "", []⟩

/-- The file that a program's name leads to is executable. -/
def findProgram (w : Workspace) (name : String) : Except FileError Unit := do
  let path := if name.contains '/' then name else w.programs ++ "/" ++ name
  match ← w.disk.stat path with
  | .directory _ => .error .denied
  | .file mode _ => if mode &&& 0o111 = 0 then .error .denied else return ()

/-- The workspace with another disk, if there is one. -/
def change (w : Workspace) (disk : Except FileError Disk) : Except FileError Unit × Workspace :=
  match disk with
  | .ok disk => (.ok (), { w with disk })
  | .error e => (.error e, w)

/-- A program that is run. -/
def run (name : String) (arguments : List String) (w : Workspace) :
    Except FileError ProgramResult × Workspace :=
  if (name :: arguments).any (·.contains '\x00') then (.error .nulInProgram, w)
  else
    match w.findProgram name with
    | .ok () => (.ok w.program, { w with ran := w.ran ++ [arguments] })
    | .error e => (.error e, w)

/-- What a node is. -/
def kindOf : Node → Kind
  | .directory _ => .directory
  | .file _ _ => .file

end Workspace

/-- The programs that run in a workspace. -/
abbrev InWorkspace := StateM Workspace

instance : Host InWorkspace where
  kind path := return ((← get).disk.stat path).map Workspace.kindOf
  readFile path := return (← get).disk.read path
  writeFile path mode content := modifyGet fun w => w.change (w.disk.write path mode content)
  makeDirectory path := modifyGet fun w => w.change (w.disk.makeDirectory path)
  removeFile path := modifyGet fun w => w.change (w.disk.remove path)
  setMode path mode := modifyGet fun w => w.change (w.disk.setMode path mode)
  workingDirectory := return (← get).disk.workingDirectory
  environment name := return (← get).environment.get? name
  runProgram name arguments := modifyGet (Workspace.run name arguments)
  now := return (← get).now
  pause seconds := modify fun w => { w with now := w.now.after seconds }
  print text := modify fun w => { w with output := w.output ++ text }
  log line := modify fun w => { w with log := w.log ++ [line] }

end InboxAudit.Host
