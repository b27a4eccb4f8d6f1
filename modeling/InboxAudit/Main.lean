import InboxAudit.Command.Program
import InboxAudit.Log.Filter
import Std.Time.DateTime.Timestamp

/-!
# The program on a real machine

Files, environment, clock, output and log of the machine. Other programs are not started, and there
is no network: commands get as far as they do without.
-/

namespace InboxAudit.Machine
set_option autoImplicit false

open Files (FileError)

/-- The programs that run on a machine, with the log lines that are shown. -/
abbrev OnMachine := ReaderT Log.Filter IO

/-- An error of the operating system by its number, which some operations return negated. -/
def fileError (number : UInt32) (text : String) : FileError :=
  match if number < 0x80000000 then number else 0 - number with
  | 2 => .notFound
  | 13 => .denied
  | 17 => .alreadyExists
  | 20 => .notDirectory
  | 21 => .isDirectory
  | 36 => .nameTooLong
  | n => .other (text ++ " (os error " ++ toString n ++ ")")

/-- An error of an action as a file error. -/
def FileError.ofError : IO.Error → FileError
  | .noFileOrDirectory _ n text => fileError n text
  | .permissionDenied _ n text => fileError n text
  | .alreadyExists _ n text => fileError n text
  | .inappropriateType _ n text => fileError n text
  | .invalidArgument _ n text => fileError n text
  | .resourceExhausted _ n text => fileError n text
  | .noSuchThing _ n text => fileError n text
  | .otherError n text => fileError n text
  | e => .other (toString e)

/-- An action on a path, whose failure is its result. -/
def attempt {α : Type} (path : String) (action : IO α) : OnMachine (Except FileError α) := do
  if path.contains '\x00' then return .error .nulInName
  try return .ok (← (action : IO α))
  catch e => return .error (FileError.ofError e)

/-- The bytes of a file; a directory has none. -/
def readBytes (path : String) : IO (List UInt8) := do
  return (← IO.FS.readBinFile path).toList

/-- What there is under a path. -/
def kind (path : String) : IO Host.Kind := do
  let found ← ((← IO.currentDir) / path).metadata
  return match found.type with
    | .dir => .directory
    | _ => .file

/-- Rights of the owner alone. -/
def ownerOnly : IO.FileRight := { user := { read := true, write := true } }

/-- The permission bits give rights to the owner alone. -/
def isPrivate (mode : Nat) : Bool := mode &&& 0o077 = 0

/-- A file is written. A new file with rights for its owner alone has them before its content. -/
def writeBytes (path : String) (mode : Nat) (content : List UInt8) : IO Unit := do
  let isNew ← try discard (kind path); pure false catch _ => pure true
  if isNew && isPrivate mode then
    IO.FS.writeBinFile path ByteArray.empty
    IO.setAccessRights path ownerOnly
  IO.FS.writeBinFile path ⟨content.toArray⟩

/-- The rights of a file are set to its permission bits. -/
def setRights (path : String) (mode : Nat) : IO Unit :=
  if isPrivate mode then IO.setAccessRights path ownerOnly
  else IO.setAccessRights path
    { user := { read := true, write := true }, group := { read := true }, other := { read := true } }

/-- The time of the machine's clock. -/
def clock : IO Time.Instant := do
  let nanos := (← Std.Time.Timestamp.now).toNanosecondsSinceUnixEpoch.val
  return ⟨nanos / 1000000000, (nanos % 1000000000).toNat⟩

instance : Host OnMachine where
  kind path := attempt path (kind path)
  readFile path := attempt path (readBytes path)
  writeFile path mode content := attempt path (writeBytes path mode content)
  makeDirectory path := attempt path (IO.FS.createDir path)
  removeFile path := attempt path (IO.FS.removeFile path)
  setMode path mode := attempt path (setRights path mode)
  workingDirectory := do
    try return .ok (toString (← (IO.currentDir : IO _)))
    catch e => return .error (FileError.ofError e)
  environment name := (IO.getEnv name : BaseIO _)
  runProgram _ _ := return .error (.other "programs are not started here")
  now := (clock : IO _)
  pause seconds := (IO.sleep (seconds * 1000).ceil.toNat.toUInt32 : BaseIO _)
  print text := (IO.print text : IO _)
  log line := do
    if (← read).shows line then
      IO.eprint ((← (clock : IO _)).write ++ "  " ++ line.render)

/-- The machine without a network. -/
def offline (_ : Access.Token) : Http.Network OnMachine :=
  .unreachable fun seconds => Host.pause (seconds : Rat)

end InboxAudit.Machine

open InboxAudit in
/-- The program on the words of its command line. -/
def main (words : List String) : IO UInt32 := do
  let verbose := (Command.read words).toOption.any (·.verbose)
  let filter := Log.Filter.choose verbose (← IO.getEnv "RUST_LOG")
  let ended ← (Command.program Machine.offline words).run filter
  IO.eprint ended.complaint
  return ended.code.toUInt32
