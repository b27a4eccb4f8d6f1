import InboxAudit.Host.Basic
import InboxAudit.Settings.Check
import InboxAudit.Settings.Document
import InboxAudit.Text.Quoted
import InboxAudit.Text.Utf8

/-!
# Settings files

Settings are kept in a file. Where there is no file the defaults count, and a file that cannot be
read or holds unusable settings is an error.
-/

namespace InboxAudit.Settings
set_option autoImplicit false

open Text (ofUtf8? toUtf8)
open Text.Quoted (quote)

variable {m : Type → Type} [Monad m] [Host m]

/-- The settings that some bytes hold, if they are usable. -/
def decode (bytes : List UInt8) : Except AuditError Settings := do
  match ofUtf8? bytes with
  | none => .error (.config "Failed to read config file: stream did not contain valid UTF-8")
  | some text =>
    match ofToml? text with
    | none => .error (.config "Failed to parse config file: not a document of settings")
    | some s =>
      s.check
      return s

/-- The settings that a file holds, the defaults if there is no file. -/
def load (path : String) : m (Except AuditError Settings) := do
  if !(← Host.isPresent path) then
    Host.note .warn .settings ("Config file not found at " ++ quote path ++ ", using defaults")
    return .ok default
  match ← Host.readFile path with
  | .error e => return .error (.config ("Failed to read config file: " ++ e.message))
  | .ok bytes =>
    match decode bytes with
    | .error e => return .error e
    | .ok s =>
      Host.note .debug .settings "Configuration validation passed"
      Host.note .info .settings ("Loaded configuration from " ++ quote path)
      return .ok s

/-- The settings are written to a file, whose directory is made if need be. -/
def save (s : Settings) (path : String) : m (Except AuditError Unit) := do
  match ← Host.makeParent path with
  | .error (_, e) => return .error (.config ("Failed to create config directory: " ++ e.message))
  | .ok () =>
    match s.toToml? with
    | none =>
      return .error (.config "Failed to serialize config: a number is out of range")
    | some text =>
      match ← Host.writeFile path 0o666 (toUtf8 text) with
      | .error e => return .error (.config ("Failed to write config file: " ++ e.message))
      | .ok () =>
        Host.note .info .settings ("Saved configuration to " ++ quote path)
        return .ok ()

end InboxAudit.Settings
