import InboxAudit.Proofs.Collections.Ascending
import InboxAudit.Proofs.Json.Record
import InboxAudit.Proofs.Json.RoundTrip
import InboxAudit.Proofs.Time.Instant
import InboxAudit.Report.Basic

/-!
# Reports read back

A report whose window is a whole number of seconds and whose counts fit into 64 bits is read back
from the text in which it is stored (`read_write`).
-/

namespace InboxAudit

open Json (field text? fields? fields?_object field_some list? list?_map list?_texts nat64?
  nat64?_nat IsExact isExact_map isExact_texts)

namespace Analysis
set_option autoImplicit false

theorem DeadRule.isExact_toJson (d : DeadRule) : d.toJson.IsExact :=
  .object (by simp [IsExact.string])

theorem Conflict.isExact_toJson (c : Conflict) : c.toJson.IsExact :=
  .object (by simp [IsExact.string, isExact_texts])

theorem Findings.isExact_toJson (f : Findings) : f.toJson.IsExact :=
  .object (by simp [isExact_texts, isExact_map, DeadRule.isExact_toJson, Conflict.isExact_toJson])

theorem DeadRule.ofJson?_toJson (d : DeadRule) : DeadRule.ofJson? d.toJson = some d := by
  have fields : fields? ["name", "reason"] d.toJson =
      some [some (.string d.name), some (.string d.reason)] := fields?_object rfl (by decide)
  rw [DeadRule.ofJson?, fields]
  rfl

theorem Conflict.ofJson?_toJson (c : Conflict) : Conflict.ofJson? c.toJson = some c := by
  have fields : fields? ["rules", "description"] c.toJson =
      some [some (Json.texts c.rules), some (.string c.description)] :=
    fields?_object rfl (by decide)
  simp [Conflict.ofJson?, fields, field_some, list?_texts, text?]

theorem Findings.ofJson?_toJson (f : Findings) : Findings.ofJson? f.toJson = some f := by
  have fields : fields? ["dead_rules", "missing_labels", "conflicts"] f.toJson =
      some [some (.array (f.deadRules.map DeadRule.toJson)), some (Json.texts f.missingLabels),
        some (.array (f.conflicts.map Conflict.toJson))] := fields?_object rfl (by decide)
  have dead := list?_map (l := f.deadRules) fun d _ => d.ofJson?_toJson
  have conflicts := list?_map (l := f.conflicts) fun c _ => c.ofJson?_toJson
  simp [Findings.ofJson?, fields, field_some, list?_texts, dead, conflicts]

end Analysis

namespace Report

open Analysis (Standing DeadRule Conflict)
open Numbers (bound)

/-- What a stored report does not lose: its window is a whole number of seconds, its counts have 64
bits, its coverage is in order and its instant is one of the calendar. -/
structure IsStorable (r : Report) : Prop where
  instant : r.generatedAt.IsProper
  wholeWindow : r.window.nanos = 0
  window : r.window.seconds < bound 64
  total : r.total < bound 64
  senders : ∀ row ∈ r.topSenders, row.count < bound 64
  lists : ∀ row ∈ r.topLists, row.count < bound 64
  coverage : ∀ entry ∈ r.coverage, entry.2 < bound 64
  ordered : Ascending Prod.fst r.coverage

theorem standingOfJson?_toJson (key : String) (new : key ∉ ["count", "preview_subject"])
    {row : Standing} (small : row.count < bound 64) :
    standingOfJson? key (standingToJson key row) = some row := by
  have fields : fields? [key, "count", "preview_subject"] (standingToJson key row) =
      some [some (.string row.key), some (Json.nat row.count), some (.string row.preview)] :=
    fields?_object rfl (List.nodup_cons.2 ⟨new, by decide⟩)
  -- Steps left implicit would have the kernel count up to the bound of 64 bits.
  simp -implicitDefEqProofs [standingOfJson?, fields, field_some, text?, nat64?_nat small]

theorem coverageOfJson?_toJson {coverage : SortedTable Nat}
    (small : ∀ entry ∈ coverage, entry.2 < bound 64) (ordered : Ascending Prod.fst coverage) :
    coverageOfJson? (coverageToJson coverage) = some coverage := by
  have read : (coverage.map fun entry => (entry.1, Json.nat entry.2)).mapM
      (fun m : String × Json => (nat64? m.2).map (m.1, ·)) = some coverage := by
    rw [List.mapM_map, Json.mapM_eq_some_map (g := id), List.map_id]
    intro entry mem
    simp -implicitDefEqProofs [nat64?_nat (small entry mem)]
  rw [coverageToJson, coverageOfJson?, read, Option.map_some,
    SortedTable.ofEntries_of_ascending ordered]

theorem suggestionsOfJson?_toJson (s : Suggestions) :
    suggestionsOfJson? (suggestionsToJson s) = some s := by
  have fields : fields? ["archive_rules", "remove_rules", "smells"] (suggestionsToJson s) =
      some [some (Json.texts s.archiveRules), some (.array (s.removeRules.map DeadRule.toJson)),
        some (.array (s.smells.map Conflict.toJson))] := fields?_object rfl (by decide)
  have remove := list?_map (l := s.removeRules) fun d _ => d.ofJson?_toJson
  have smells := list?_map (l := s.smells) fun c _ => c.ofJson?_toJson
  simp [suggestionsOfJson?, fields, field_some, list?_texts, remove, smells]

theorem isExact_standingToJson (key : String) (row : Standing) : (standingToJson key row).IsExact :=
  .object (by simp [IsExact.string, Json.nat, IsExact.integer])

theorem isExact_coverageToJson (coverage : SortedTable Nat) : (coverageToJson coverage).IsExact :=
  .object fun m mem => by
    obtain ⟨entry, _, rfl⟩ := List.mem_map.1 mem
    exact .integer entry.2

theorem isExact_suggestionsToJson (s : Suggestions) : (suggestionsToJson s).IsExact :=
  .object (by simp [isExact_texts, isExact_map, DeadRule.isExact_toJson, Conflict.isExact_toJson])

theorem isExact_toJson (r : Report) : r.toJson.IsExact :=
  .object (by simp [IsExact.string, Json.nat, IsExact.integer, isExact_map, isExact_standingToJson,
    isExact_coverageToJson, isExact_suggestionsToJson, Analysis.Findings.isExact_toJson])

theorem ofJson?_toJson {r : Report} (storable : r.IsStorable) : ofJson? r.toJson = some r := by
  have fields : fields? ["generated_at", "window", "total", "top_senders", "top_lists", "coverage",
      "suggestions", "findings"] r.toJson =
      some [some (.string r.generatedAt.write), some (Json.nat r.window.seconds),
        some (Json.nat r.total), some (.array (r.topSenders.map (standingToJson "domain"))),
        some (.array (r.topLists.map (standingToJson "list_id"))),
        some (coverageToJson r.coverage), some (suggestionsToJson r.suggestions),
        some r.findings.toJson] := fields?_object rfl (by decide)
  have senders := list?_map (l := r.topSenders) fun row mem =>
    standingOfJson?_toJson "domain" (by decide) (storable.senders row mem)
  have lists := list?_map (l := r.topLists) fun row mem =>
    standingOfJson?_toJson "list_id" (by decide) (storable.lists row mem)
  have window : (⟨r.window.seconds, 0⟩ : Window) = r.window := by
    rw [← storable.wholeWindow]
  simp -implicitDefEqProofs [ofJson?, fields, field_some, instantOfJson?, text?,
    storable.instant.readsBack, nat64?_nat storable.window, nat64?_nat storable.total, senders, lists,
    coverageOfJson?_toJson storable.coverage storable.ordered, suggestionsOfJson?_toJson,
    Analysis.Findings.ofJson?_toJson, window]

/-- A stored report is read back. -/
theorem read_write {r : Report} (storable : r.IsStorable) : read r.write = some r := by
  rw [read, write, Json.read_pretty r.isExact_toJson, Option.bind_some, ofJson?_toJson storable]

/-- A report with quotes, backslashes, control characters and letters of many kinds, of a leap
second. -/
def motley : Report where
  generatedAt := ⟨1739788199, 1500000000⟩
  window := .ofDays 30
  total := 3
  topSenders := [⟨"münchen.example", 2, "\"Neu\"\t\\o/ 📬"⟩]
  topLists := [⟨"announce.example", 1, ""⟩]
  coverage := [("A\"B", 1), ("Größe\n", 2)]
  suggestions := ⟨["rule \x7f"], [⟨"old", "\u0000"⟩], []⟩
  findings := ⟨[], ["Later\r"], [⟨["a", "b"], "archives & stars"⟩]⟩

theorem read_write_motley : motley.IsStorable ∧ read motley.write = some motley := by
  have storable : motley.IsStorable := {
    instant := ⟨by decide, by decide⟩
    wholeWindow := rfl
    window := by decide
    total := by decide
    senders := by decide
    lists := by decide
    coverage := by decide
    ordered := List.pairwise_pair.2 (by decide) }
  exact ⟨storable, read_write storable⟩

end Report

end InboxAudit
