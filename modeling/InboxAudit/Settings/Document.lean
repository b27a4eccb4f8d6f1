import InboxAudit.Json.Record
import InboxAudit.Settings.Basic
import InboxAudit.Toml.Json
import InboxAudit.Toml.Printer
import InboxAudit.Toml.Reader

/-!
# Settings as documents

Settings are a record of four records, each field with its default. They are written section by
section with all fields but the paths that are not given, as TOML in a file and as JSON elsewhere.
-/

namespace InboxAudit.Settings
set_option autoImplicit false

open Json (fields? fieldOr text? bool? nat32? nat64? list? optional?)

/-- The sampling in JSON. -/
def Sampling.ofJson? (v : Json) : Option Sampling := do
  match ← fields? ["window_days", "top_n", "page_size", "headers"] v with
  | [windowDays, topN, pageSize, headers] =>
    return ⟨← fieldOr Sampling.default.windowDays nat32? windowDays,
      ← fieldOr Sampling.default.topN nat64? topN,
      ← fieldOr Sampling.default.pageSize nat32? pageSize,
      ← fieldOr Sampling.default.headers (list? text?) headers⟩
  | _ => none

/-- The lint section in JSON. -/
def Linting.ofJson? (v : Json) : Option Linting := do
  match ← fields? ["window_days", "fail_on"] v with
  | [windowDays, failOn] =>
    return ⟨← fieldOr Linting.default.windowDays nat32? windowDays,
      ← fieldOr Linting.default.failOn (list? text?) failOn⟩
  | _ => none

/-- The source of the filters in JSON. -/
def Filters.ofJson? (v : Json) : Option Filters := do
  match ← fields? ["enabled", "binary", "config_dir", "export_file"] v with
  | [enabled, binary, configDir, exportFile] =>
    return ⟨← fieldOr Filters.default.enabled bool? enabled,
      ← fieldOr Filters.default.binary text? binary,
      ← fieldOr none (optional? text?) configDir, ← fieldOr none (optional? text?) exportFile⟩
  | _ => none

/-- The rate in JSON. -/
def Rate.ofJson? (v : Json) : Option Rate := do
  match ← fields? ["requests_per_second", "burst"] v with
  | [requestsPerSecond, burst] =>
    return ⟨← fieldOr Rate.default.requestsPerSecond nat32? requestsPerSecond,
      ← fieldOr Rate.default.burst nat32? burst⟩
  | _ => none

/-- Settings in JSON. -/
def ofJson? (v : Json) : Option Settings := do
  match ← fields? ["audit", "lint", "gmailctl", "rate"] v with
  | [audit, lint, filters, rate] =>
    return ⟨← fieldOr .default Sampling.ofJson? audit, ← fieldOr .default Linting.ofJson? lint,
      ← fieldOr .default Filters.ofJson? filters, ← fieldOr .default Rate.ofJson? rate⟩
  | _ => none

/-- Settings in a TOML document. -/
def ofToml? (text : String) : Option Settings := (Toml.read? text.toList).bind (ofJson? ·.toJson)

/-- A setting that is written where it is given. -/
def given (key : String) (value : Option String) : List (String × Toml.Setting) :=
  (value.map fun text => (key, Toml.Setting.text text)).toList

/-- The settings section by section. -/
def sections (s : Settings) : List Toml.Section :=
  [⟨"audit", [("window_days", .number s.audit.windowDays), ("top_n", .number s.audit.topN),
      ("page_size", .number s.audit.pageSize), ("headers", .texts s.audit.headers)]⟩,
    ⟨"lint", [("window_days", .number s.lint.windowDays), ("fail_on", .texts s.lint.failOn)]⟩,
    ⟨"gmailctl", [("enabled", .flag s.filters.enabled), ("binary", .text s.filters.binary)] ++
      given "config_dir" s.filters.configDir ++ given "export_file" s.filters.exportFile⟩,
    ⟨"rate", [("requests_per_second", .number s.rate.requestsPerSecond),
      ("burst", .number s.rate.burst)]⟩]

/-- Settings as a TOML document; numbers that TOML cannot hold have none. -/
def toToml? (s : Settings) : Option String := (Toml.print? s.sections).map String.ofList

/-- Settings as JSON. -/
def toJson (s : Settings) : Json :=
  .object (s.sections.map fun part =>
    (part.name, .object (part.settings.map fun entry => (entry.1, entry.2.toToml.toJson))))

end InboxAudit.Settings
