import InboxAudit.Proofs.Json.Record
import InboxAudit.Proofs.Toml.RoundTrip
import InboxAudit.Settings.Check
import InboxAudit.Settings.Document

/-!
# Settings read back from documents

Settings are read back from the document they are written as (`ofToml?_toToml`). A document can be
written unless a number is out of its range, which usable settings can only have in the length of
the rankings (`isSome_toToml?`).
-/

namespace InboxAudit.Settings
set_option autoImplicit false

open Json (fields? fields?_object fieldOr text? optional? list?_texts nat32?_nat nat64?_nat)
open Numbers (bound)
open Toml (Section Setting isInteger)

/-- The length of the rankings has 64 bits, every other number 32. -/
structure HasWidths (s : Settings) : Prop where
  auditWindow : s.audit.windowDays < bound 32
  topN : s.audit.topN < bound 64
  pageSize : s.audit.pageSize < bound 32
  lintWindow : s.lint.windowDays < bound 32
  requestsPerSecond : s.rate.requestsPerSecond < bound 32
  burst : s.rate.burst < bound 32

section Records

/-- A section as JSON. -/
def objectOf (settings : List (String × Setting)) : Json :=
  .object (settings.map fun entry => (entry.1, entry.2.toToml.toJson))

theorem toJson_texts (items : List String) :
    (Setting.texts items).toToml.toJson = Json.texts items := by
  have each : Toml.itemsToJson (items.map .string) = items.map .string := by
    induction items with
    | nil => rfl
    | cons item more ih =>
      rw [List.map_cons, List.map_cons, ← ih]
      rfl
  rw [Setting.toToml, Toml.toJson, each, Json.texts]

theorem ofJson?_sampling {a : Sampling} (window : a.windowDays < bound 32) (rows : a.topN < bound 64)
    (page : a.pageSize < bound 32) :
    Sampling.ofJson? (objectOf [("window_days", .number a.windowDays), ("top_n", .number a.topN),
      ("page_size", .number a.pageSize), ("headers", .texts a.headers)]) = some a := by
  have fields : fields? ["window_days", "top_n", "page_size", "headers"]
      (objectOf [("window_days", .number a.windowDays), ("top_n", .number a.topN),
        ("page_size", .number a.pageSize), ("headers", .texts a.headers)]) =
      some [some (Json.nat a.windowDays), some (Json.nat a.topN), some (Json.nat a.pageSize),
        some (Setting.texts a.headers).toToml.toJson] := fields?_object rfl (by decide)
  simp -implicitDefEqProofs [Sampling.ofJson?, fields, fieldOr, nat32?_nat window, nat64?_nat rows,
    nat32?_nat page, toJson_texts, list?_texts]

theorem ofJson?_linting {l : Linting} (window : l.windowDays < bound 32) :
    Linting.ofJson? (objectOf [("window_days", .number l.windowDays),
      ("fail_on", .texts l.failOn)]) = some l := by
  have fields : fields? ["window_days", "fail_on"] (objectOf [("window_days", .number l.windowDays),
      ("fail_on", .texts l.failOn)]) =
      some [some (Json.nat l.windowDays), some (Setting.texts l.failOn).toToml.toJson] :=
    fields?_object rfl (by decide)
  simp -implicitDefEqProofs [Linting.ofJson?, fields, fieldOr, nat32?_nat window, toJson_texts,
    list?_texts]

/-- A path that is not given is read as none. -/
theorem ofJson?_filters (f : Filters) :
    Filters.ofJson? (objectOf ([("enabled", .flag f.enabled), ("binary", .text f.binary)] ++
      given "config_dir" f.configDir ++ given "export_file" f.exportFile)) = some f := by
  obtain ⟨enabled, binary, configDir, exportFile⟩ := f
  cases configDir <;> cases exportFile <;>
    simp [Filters.ofJson?, objectOf, given, Setting.toToml, Toml.toJson, fields?, Json.single?,
      fieldOr, Json.bool?, text?, optional?]

theorem ofJson?_rate {r : Rate} (requests : r.requestsPerSecond < bound 32)
    (burst : r.burst < bound 32) :
    Rate.ofJson? (objectOf [("requests_per_second", .number r.requestsPerSecond),
      ("burst", .number r.burst)]) = some r := by
  have fields : fields? ["requests_per_second", "burst"]
      (objectOf [("requests_per_second", .number r.requestsPerSecond), ("burst", .number r.burst)]) =
      some [some (Json.nat r.requestsPerSecond), some (Json.nat r.burst)] :=
    fields?_object rfl (by decide)
  simp -implicitDefEqProofs [Rate.ofJson?, fields, fieldOr, nat32?_nat requests, nat32?_nat burst]

/-- Settings are read back from JSON. -/
theorem ofJson?_toJson {s : Settings} (widths : s.HasWidths) : ofJson? s.toJson = some s := by
  have audit := ofJson?_sampling widths.auditWindow widths.topN widths.pageSize
  have lint := ofJson?_linting widths.lintWindow
  have filters := ofJson?_filters s.filters
  have rate := ofJson?_rate widths.requestsPerSecond widths.burst
  have fields : fields? ["audit", "lint", "gmailctl", "rate"] s.toJson =
      some (s.sections.map fun part => some (objectOf part.settings)) :=
    fields?_object rfl (by decide)
  simp -implicitDefEqProofs only [ofJson?, fields, sections, List.map_cons, List.map_nil,
    Option.bind_eq_bind, Option.bind_some, fieldOr, audit, lint, filters, rate, Option.pure_def]

end Records

section Documents

variable {s : Settings}

theorem isPlain_of_keys {name : String} {settings : List (String × Setting)} (keys : List String)
    (known : (settings.map Prod.fst).Sublist keys) (bare : ∀ n ∈ name :: keys, Toml.IsBare n)
    (distinct : keys.Nodup) : (Section.mk name settings).IsPlain := by
  obtain ⟨bareName, bareKeys⟩ := List.forall_mem_cons.1 bare
  refine ⟨bareName, fun entry mem => ?_, distinct.sublist known⟩
  exact bareKeys _ (known.subset (List.mem_map_of_mem mem))

theorem isPlain_sections (s : Settings) : ∀ part ∈ s.sections, part.IsPlain := by
  have filters : (Section.mk "gmailctl" ([("enabled", .flag s.filters.enabled),
      ("binary", .text s.filters.binary)] ++ given "config_dir" s.filters.configDir ++
        given "export_file" s.filters.exportFile)).IsPlain := by
    refine isPlain_of_keys ["enabled", "binary", "config_dir", "export_file"] ?_ (by decide)
      (by decide)
    cases s.filters.configDir <;> cases s.filters.exportFile <;> simp [given]
  simp only [sections, List.forall_mem_cons, List.not_mem_nil, false_imp_iff, implies_true, and_true]
  exact ⟨isPlain_of_keys ["window_days", "top_n", "page_size", "headers"] (.refl _) (by decide)
      (by decide),
    isPlain_of_keys ["window_days", "fail_on"] (.refl _) (by decide) (by decide), filters,
    isPlain_of_keys ["requests_per_second", "burst"] (.refl _) (by decide) (by decide)⟩

theorem entriesToJson_eq_map (entries : List (String × Toml)) :
    Toml.entriesToJson entries = entries.map fun entry => (entry.1, entry.2.toJson) := by
  induction entries with
  | nil => rfl
  | cons entry more ih => rw [Toml.entriesToJson, ih, List.map_cons]

theorem toJson_sections (s : Settings) :
    (Toml.table (s.sections.map Section.toToml)).toJson = s.toJson := by
  simp [Toml.toJson, entriesToJson_eq_map, Section.toToml, toJson, Function.comp_def]

/-- Settings are read back from the document they are written as. -/
theorem ofToml?_toToml {text : String} (widths : s.HasWidths) (written : s.toToml? = some text) :
    ofToml? text = some s := by
  obtain ⟨chars, printed, rfl⟩ := Option.map_eq_some_iff.1 written
  have distinct : (s.sections.map Section.name).Nodup :=
    show ["audit", "lint", "gmailctl", "rate"].Nodup by decide
  rw [ofToml?, String.toList_ofList, Toml.read?_print (isPlain_sections s) distinct printed,
    Option.bind_some, toJson_sections, ofJson?_toJson widths]

theorem isSome_number {n : Nat} : (Setting.number n).print?.isSome = true ↔ n < bound 63 := by
  rw [Setting.print?, Option.isSome_ite, Toml.isInteger_iff]

/-- Settings can be written exactly if the length of the rankings is a number of TOML. -/
theorem isSome_toToml? (widths : s.HasWidths) :
    s.toToml?.isSome = true ↔ s.audit.topN < bound 63 := by
  -- Only the rankings may be longer than 32 bits allow.
  have narrow {n : Nat} (small : n < bound 32) : n < bound 63 :=
    Nat.lt_trans small (Nat.pow_lt_pow_right (by decide) (by decide))
  have optional (key : String) (value : Option String) :
      ∀ entry ∈ given key value, entry.2.print?.isSome = true := by
    cases value <;> simp [given, Setting.print?]
  rw [toToml?, Option.isSome_map, Toml.isSome_print?]
  constructor
  · intro all
    have audit := all _ List.mem_cons_self
    exact isSome_number.1 (audit ("top_n", .number s.audit.topN) (by simp))
  · intro rows
    simp only [sections, List.forall_mem_cons, List.not_mem_nil, false_imp_iff, implies_true, and_true,
      List.forall_mem_append, isSome_number]
    exact ⟨⟨narrow widths.auditWindow, rows, narrow widths.pageSize, rfl⟩,
      ⟨narrow widths.lintWindow, rfl⟩, ⟨⟨⟨rfl, rfl⟩, optional _ _⟩, optional _ _⟩,
      ⟨narrow widths.requestsPerSecond, narrow widths.burst⟩⟩

end Documents

end InboxAudit.Settings
