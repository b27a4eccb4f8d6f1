import InboxAudit.Host.Workspace
import InboxAudit.Proofs.Files.Disk
import InboxAudit.Proofs.Report.Destination
import InboxAudit.Proofs.Report.RoundTrip

/-!
# Report files

A destination is joined to the path of the working directory, and there is where the report is put, and nowhere
else (`exists_of_run_save`): names lead straight down. The file then holds the report alone. It is private if it
is new; an old file is as private as it was (`save_exact`).
-/

namespace InboxAudit
set_option autoImplicit false

/-- The permission bits grant nothing to the group and to others. -/
def Files.IsPrivate (mode : Nat) : Prop := mode &&& 0o077 = 0

instance (mode : Nat) : Decidable (Files.IsPrivate mode) := inferInstanceAs (Decidable (_ = _))

namespace Files.Disk

variable {disk : Disk} {directory path : String} {names : List String}

theorem workingDirectory_eq_ok (found : disk.workingDirectory = .ok directory) :
    directory = Path.fromRoot disk.working := by
  unfold workingDirectory at found
  split at found
  · exact (Except.ok.inj found).symm
  · cases found

/-- A destination behind the path of the working directory is a place below it. -/
theorem join_workingDirectory (below : Report.LeadsBelow path names)
    (found : disk.workingDirectory = .ok directory) :
    Path.join directory (Path.ofParts names) = Path.fromRoot (disk.working ++ names) := by
  rw [workingDirectory_eq_ok found]
  exact Path.join_fromRoot disk.named below.areNames below.filled

theorem areNames_working_append (below : Report.LeadsBelow path names) :
    Path.AreNames (disk.working ++ names) := by
  intro name mem
  rcases List.mem_append.1 mem with mem | mem
  · exact disk.named name mem
  · exact below.areNames name mem

end Files.Disk

namespace Report

open Files (Disk IsPrivate Node)
open Files.Disk (allowed)
open Files.Path (join ofParts fromRoot)
open Host (InWorkspace Workspace)
open Text (toUtf8)

variable {r : Report} {path directory target : String} {names : List String} {w w' : Workspace}

theorem run_save_of_error {fault : DestinationFault} (refused : destination path = .error fault) :
    (r.save path : InWorkspace _).run w = (.error (.output fault.message), w) := by
  rw [save, refused]
  rfl

theorem run_save_of_lost {e : Files.FileError} (accepted : destination path = .ok names)
    (lost : w.disk.workingDirectory = .error e) : (r.save path : InWorkspace _).run w =
      (.error (.output ("determine working directory: " ++ e.message)), w) := by
  have asked : (Host.workingDirectory : InWorkspace _).run w = (.error e, w) := by
    rw [← lost]
    rfl
  rw [save, accepted]
  dsimp only
  rw [run_bind, asked]
  rfl

/-- What comes of a report whose path is a destination is what comes of writing the file. -/
theorem run_save_of_ok (accepted : destination path = .ok names)
    (found : w.disk.workingDirectory = .ok directory) :
    (r.save path : InWorkspace _).run w =
      match w.disk.write (join directory (ofParts names)) fileMode r.encode with
      | .ok disk => (.ok (join directory (ofParts names)), { w with disk })
      | .error e =>
        (.error (.output ("create " ++ join directory (ofParts names) ++ ": " ++ e.message)), w) := by
  have asked : (Host.workingDirectory : InWorkspace _).run w = (.ok directory, w) := by
    rw [← found]
    rfl
  have wrote : (Host.writeFile (join directory (ofParts names)) fileMode r.encode : InWorkspace _).run w =
      w.change (w.disk.write (join directory (ofParts names)) fileMode r.encode) := rfl
  rw [save, accepted]
  dsimp only
  rw [run_bind, asked]
  dsimp only
  rw [run_bind, wrote]
  cases w.disk.write (join directory (ofParts names)) fileMode r.encode with
  | ok disk => rfl
  | error e => rfl

/-- A report that is saved went to its destination below the working directory, and nothing else changed. -/
theorem exists_of_run_save (saved : (r.save path : InWorkspace _).run w = (.ok target, w')) :
    ∃ names directory place, destination path = .ok names ∧ w.disk.workingDirectory = .ok directory ∧
      target = join directory (ofParts names) ∧ target = fromRoot place ∧ w.disk.Targets target place ∧
      w' = { w with disk := w.disk.put place (.file (Disk.modeOver fileMode (w.disk.node? place)) r.encode) } := by
  cases accepted : destination path with
  | error fault =>
    rw [run_save_of_error accepted] at saved
    cases saved
  | ok names =>
    cases found : w.disk.workingDirectory with
    | error e =>
      rw [run_save_of_lost accepted found] at saved
      cases saved
    | ok directory =>
      have below := leadsBelow_of_destination accepted
      have joined := Disk.join_workingDirectory below found
      rw [run_save_of_ok accepted found] at saved
      split at saved
      · next disk written =>
        cases saved
        rw [joined] at written
        obtain ⟨targets, rfl⟩ := Disk.write_fromRoot (Disk.areNames_working_append below) written
        exact ⟨names, directory, _, rfl, rfl, rfl, joined, joined ▸ targets, rfl⟩
      · cases saved

theorem isPrivate_modeOver_iff (old : Option Node) :
    IsPrivate (Disk.modeOver fileMode old) ↔ ∀ node, old = some node → IsPrivate node.mode := by
  cases old with
  | none =>
    have isNew : IsPrivate (allowed fileMode) := by decide
    simp [Disk.modeOver, isNew]
  | some old =>
    simp [Disk.modeOver]

/-- A report that is saved stands in its destination behind the path of the working directory, and there alone: the
file holds its pretty JSON and a line break, whatever it held before, and no other file changes. A new file is the
owner's alone, but an old one keeps its permission bits, so the report is private exactly if there was no file that
others could use. A path that is no destination changes nothing, nor does any path once the working directory has
gone. -/
theorem save_exact (r : Report) (path : String) (w : Workspace) :
    (∀ target w', (r.save path : InWorkspace _).run w = (.ok target, w') →
      ∃ names directory mode, destination path = .ok names ∧ w.disk.workingDirectory = .ok directory ∧
        target = join directory (ofParts names) ∧
        w'.disk.stat target = .ok (.file mode (toUtf8 (String.ofList (Json.pretty 0 r.toJson ++ ['\n'])))) ∧
        (w.disk.stat target = .error .notFound ∧ mode = 0o600 ∨
          ∃ old, w.disk.stat target = .ok old ∧ mode = old.mode) ∧
        (IsPrivate mode ↔ ∀ old, w.disk.stat target = .ok old → IsPrivate old.mode) ∧
        (∀ other, other ≠ target → Table.get? w'.disk.nodes other = Table.get? w.disk.nodes other) ∧
        w' = { w with disk := { w.disk with nodes := w'.disk.nodes } }) ∧
    (∀ names directory, destination path = .ok names → w.disk.workingDirectory = .ok directory →
      (w.disk.write (join directory (ofParts names)) 0o600 []).isOk = true →
        ∃ w', (r.save path : InWorkspace _).run w = (.ok (join directory (ofParts names)), w')) ∧
    (∀ fault, destination path = .error fault →
      (r.save path : InWorkspace _).run w = (.error (.output fault.message), w)) ∧
    ∀ names e, destination path = .ok names → w.disk.workingDirectory = .error e →
      (r.save path : InWorkspace _).run w =
        (.error (.output ("determine working directory: " ++ e.message)), w) := by
  refine ⟨?saved, ?writable, fun fault refused => run_save_of_error refused,
    fun names e accepted lost => run_save_of_lost accepted lost⟩
  case saved =>
    intro target w' saved
    obtain ⟨names, directory, place, accepted, found, joined, isAt, targets, rfl⟩ := exists_of_run_save saved
    have before := Disk.stat_of_targets targets
    refine ⟨names, directory, _, accepted, found, joined, Disk.stat_of_put targets _ _, ?_, ?_, ?_, ?_⟩
    · cases old : w.disk.node? place with
      | none => exact .inl ⟨by rw [before, old], rfl⟩
      | some node => exact .inr ⟨node, by rw [before, old], rfl⟩
    · rw [isPrivate_modeOver_iff, before]
      cases w.disk.node? place with
      | none => simp
      | some node => simp
    · intro other apart
      rw [isAt] at apart
      exact Disk.get?_put_nodes apart
    · rw [← Disk.put_eq_nodes]
  case writable =>
    intro names directory accepted found fits
    have fits : (w.disk.write (join directory (ofParts names)) fileMode r.encode).isOk = true := by
      rw [Disk.isOk_write r.encode []]
      exact fits
    rw [run_save_of_ok accepted found]
    cases written : w.disk.write (join directory (ofParts names)) fileMode r.encode with
    | error e =>
      rw [written] at fits
      cases fits
    | ok disk => exact ⟨_, rfl⟩

/-- A tree with an old report, which has the given permission bits, and notes beside it, both in the working
directory. -/
def auditedDisk (report : Node) : Disk where
  nodes := [("/home", .directory 0o755), ("/home/audit.json", report), ("/home/notes", .file 0o644 [])]
  working := ["home"]

/-- A workspace with an old report, which has the given permission bits. -/
def audited (mode : Nat) : Workspace :=
  { Workspace.empty with disk := auditedDisk (.file mode (toUtf8 "old")) }

theorem destination_audit : destination "./audit.json" = .ok ["audit.json"] := by rfl

theorem workingDirectory_audited (mode : Nat) : (audited mode).disk.workingDirectory = .ok "/home" := by rfl

theorem join_audit : join "/home" (ofParts ["audit.json"]) = "/home/audit.json" := by decide

theorem check_audit : Disk.check "/home/audit.json" = .ok () := Disk.check_eq_ok (by decide)

theorem write_audited (mode : Nat) (content : List UInt8) :
    (audited mode).disk.write "/home/audit.json" fileMode content = .ok (auditedDisk (.file mode content)) := by
  have found : (audited mode).disk.findLast "/home/audit.json" = .ok (some (["home"], "audit.json")) := by
    have steps : Files.Path.steps "/home/audit.json" = ["home"] ++ ["audit.json"] := by decide
    exact Disk.findLast_of_follow steps (by rw [Disk.follow, check_audit]; rfl) rfl (by decide)
  rw [Disk.write, found]
  rfl

theorem stat_auditedDisk (mode : Nat) (content : List UInt8) :
    (auditedDisk (.file mode content)).stat "/home/audit.json" = .ok (.file mode content) := by
  have leads : (auditedDisk (.file mode content)).follow "/home/audit.json" ["home", "audit.json"] =
      .ok ["home", "audit.json"] := by
    rw [Disk.follow, check_audit]
    rfl
  have steps : Files.Path.steps "/home/audit.json" = ["home", "audit.json"] := by decide
  have held : (auditedDisk (.file mode content)).node? ["home", "audit.json"] = some (.file mode content) := by rfl
  have targets : (auditedDisk (.file mode content)).Targets "/home/audit.json" ["home", "audit.json"] :=
    ⟨by decide, steps ▸ leads, by simp [held]⟩
  rw [Disk.stat_of_targets targets, held]

/-- The old report was private, and so is the new one in its place. Above the working directory nothing is saved. -/
theorem save_exact_private : (∃ w', (motley.save "./audit.json" : InWorkspace _).run (audited 0o600) =
      (.ok "/home/audit.json", w') ∧
    (∃ mode, w'.disk.stat "/home/audit.json" =
      .ok (.file mode (toUtf8 (String.ofList (Json.pretty 0 motley.toJson ++ ['\n'])))) ∧ IsPrivate mode) ∧
    Table.get? w'.disk.nodes "/home/notes" = some (.file 0o644 [])) ∧
    (motley.save "../audit.json" : InWorkspace _).run (audited 0o600) =
      (.error (.output (DestinationFault.escapes "../audit.json").message), audited 0o600) := by
  obtain ⟨whole, saves, -⟩ := save_exact motley "./audit.json" (audited 0o600)
  obtain ⟨w', saved⟩ := saves _ _ destination_audit (workingDirectory_audited 0o600)
    (by rw [join_audit, ← fileMode, write_audited]; rfl)
  rw [join_audit] at saved
  obtain ⟨-, -, mode, -, -, -, held, -, isPrivate, others, -⟩ := whole _ w' saved
  have wasPrivate : ∀ old, (audited 0o600).disk.stat "/home/audit.json" = .ok old → IsPrivate old.mode := by
    intro old known
    rw [audited, stat_auditedDisk] at known
    cases known
    decide
  have refused : destination "../audit.json" = .error (.escapes "../audit.json") := by rfl
  exact ⟨⟨w', saved, ⟨mode, held, isPrivate.2 wasPrivate⟩, others "/home/notes" (by decide)⟩,
    (save_exact motley "../audit.json" (audited 0o600)).2.2.1 _ refused⟩

/-- Others could read the old report, and they can read the new one. -/
theorem save_keeps_shared : ∃ w', (motley.save "./audit.json" : InWorkspace _).run (audited 0o644) =
      (.ok "/home/audit.json", w') ∧
    w'.disk.stat "/home/audit.json" = .ok (.file 0o644 motley.encode) ∧ ¬ IsPrivate 0o644 := by
  have written := write_audited 0o644 motley.encode
  have saved := @run_save_of_ok motley _ _ _ (audited 0o644) destination_audit (workingDirectory_audited 0o644)
  rw [join_audit, written] at saved
  exact ⟨_, saved, stat_auditedDisk 0o644 motley.encode, by decide⟩

end Report

end InboxAudit
