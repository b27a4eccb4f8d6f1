import InboxAudit.Host.Workspace
import InboxAudit.Proofs.Files.Disk
import InboxAudit.Proofs.Settings.Document
import InboxAudit.Proofs.Text.Utf8
import InboxAudit.Settings.File

/-!
# Settings read back from files

Usable settings that were saved are loaded again, wherever in the tree the path leads (`load_save`). They are not
saved where their rankings are longer than any number of TOML.
-/

namespace InboxAudit.Settings
set_option autoImplicit false

open Files (Disk Place)
open Host (InWorkspace Workspace makeParent)
open Numbers (bound)
open Text (toUtf8 ofUtf8?_toUtf8)

/-- A file can be written under the path once the directories above it are made. -/
def IsWritable (w : Workspace) (path : String) : Prop :=
  ∃ w' : Workspace, (makeParent path : InWorkspace _).run w = (.ok (), w') ∧
    (w'.disk.write path 0o666 []).isOk = true

section Runs

variable {s : Settings} {w w' : Workspace} {path text : String} {disk : Disk}
  {bytes : List UInt8}

theorem run_save_of_none (made : (makeParent path : InWorkspace _).run w = (.ok (), w'))
    (unwritten : s.toToml? = none) : (save s path : InWorkspace _).run w =
      (.error (.config "Failed to serialize config: a number is out of range"), w') := by
  rw [save, run_bind, made, unwritten]
  rfl

/-- The document is what the file then holds. -/
theorem run_save_of_some (made : (makeParent path : InWorkspace _).run w = (.ok (), w'))
    (written : s.toToml? = some text)
    (stored : w'.disk.write path 0o666 (toUtf8 text) = .ok disk) :
    ∃ w'', (save s path : InWorkspace _).run w = (.ok (), w'') ∧ w''.disk = disk := by
  have wrote : (Host.writeFile path 0o666 (toUtf8 text) : InWorkspace _).run w' =
      (.ok (), { w' with disk }) := by
    show w'.change (w'.disk.write path 0o666 (toUtf8 text)) = _
    rw [stored]
    rfl
  rw [save, run_bind, made, written]
  dsimp only
  rw [run_bind, wrote]
  exact ⟨_, rfl, rfl⟩

/-- What a file holds is loaded if it can be decoded. -/
theorem run_load {node : Files.Node} (known : w.disk.stat path = .ok node)
    (held : w.disk.read path = .ok bytes) (decoded : decode bytes = .ok s) :
    ((load path : InWorkspace _).run w).1 = .ok s := by
  have present : (Host.isPresent path : InWorkspace _).run w = (true, w) := by
    show (((w.disk.stat path).map Workspace.kindOf).isOk, w) = _
    rw [known]
    rfl
  have read : (Host.readFile path : InWorkspace _).run w = (.ok bytes, w) := by
    show (w.disk.read path, w) = _
    rw [held]
  rw [load, run_bind, present, if_neg (by simp), run_bind, read]
  dsimp only
  rw [decoded]
  rfl

theorem decode_toUtf8 (widths : s.HasWidths) (usable : s.check = .ok ())
    (written : s.toToml? = some text) : decode (toUtf8 text) = .ok s := by
  rw [decode, ofUtf8?_toUtf8]
  simp only [ofToml?_toToml widths written, usable]
  rfl

end Runs

/-- Usable settings that are saved are loaded again, and they are saved unless their rankings are
longer than any number of TOML. -/
theorem load_save {s : Settings} {w : Workspace} {path : String} (widths : s.HasWidths)
    (usable : s.check = .ok ()) (writable : IsWritable w path) :
    (s.audit.topN < bound 63 → ∃ w', (save s path : InWorkspace _).run w = (.ok (), w') ∧
      ((load path : InWorkspace _).run w').1 = .ok s) ∧
    (bound 63 ≤ s.audit.topN → ∃ detail, ((save s path : InWorkspace _).run w).1 =
      .error (.config ("Failed to serialize config: " ++ detail))) := by
  obtain ⟨w₁, made, fits⟩ := writable
  constructor
  · intro small
    obtain ⟨text, written⟩ := Option.isSome_iff_exists.1 ((isSome_toToml? widths).2 small)
    have fits : (w₁.disk.write path 0o666 (toUtf8 text)).isOk = true := by
      rw [Disk.isOk_write _ [], fits]
    cases stored : w₁.disk.write path 0o666 (toUtf8 text) with
    | error e =>
      rw [stored] at fits
      cases fits
    | ok disk =>
      obtain ⟨w', saved, rfl⟩ := run_save_of_some made written stored
      obtain ⟨mode, known⟩ := Disk.stat_of_write stored
      refine ⟨w', saved, run_load known (Disk.read_of_write stored) ?_⟩
      exact decode_toUtf8 widths usable written
  · intro large
    have unwritten : s.toToml? = none := by
      rw [← Option.not_isSome_iff_eq_none, isSome_toToml? widths]
      exact Nat.not_lt.2 large
    refine ⟨"a number is out of range", ?_⟩
    rw [run_save_of_none made unwritten]
    rfl

section NewDirectory

open Files.Path (IsName endsInSlash isAbsolute parent? steps)

/-- Where the directory above the path can be made at once, none above that one is looked for. -/
theorem run_makeParent {w w' : Workspace} {path parent : String} (above : parent? path = some parent)
    (filled : parent ≠ "") (ran : (Host.makeDirectory parent : InWorkspace _).run w = (.ok (), w')) :
    (makeParent path : InWorkspace _).run w = (.ok (), w') := by
  have directories : (Host.makeDirectories parent : InWorkspace _).run w = (.ok (), w') := by
    rw [Host.makeDirectories, if_neg filled]
    cases parent.length with
    | zero => exact ran
    | succ steps =>
      rw [Host.makeDirectoriesFrom, run_bind, ran]
      rfl
  unfold makeParent
  split
  · next none => rw [above] at none; cases none
  · next root => exact absurd (Option.some.inj (above.symm.trans root)) filled
  · next named =>
    cases above.symm.trans named
    rw [run_bind, directories]
    rfl

/-- The path leads by some steps to a directory and to a file in it, and `parent` is the path of the directory. -/
structure NamesFile (path parent : String) (before : List String) (directory file : String) : Prop where
  fine : '\x00' ∉ path.toList ∧ path ≠ "" ∧ path.utf8ByteSize < 4096
  noSlash : endsInSlash path = false
  steps_eq : steps path = before ++ [directory] ++ [file]
  above : parent? path = some parent
  fine_parent : '\x00' ∉ parent.toList ∧ parent ≠ "" ∧ parent.utf8ByteSize < 4096
  steps_parent : steps parent = before ++ [directory]
  sameStart : isAbsolute parent = isAbsolute path
  named : IsName directory ∧ directory.utf8ByteSize ≤ 255
  named_file : IsName file ∧ file.utf8ByteSize ≤ 255

/-- A file can be written in a directory that is not there yet. -/
theorem isWritable_of_newDirectory {w : Workspace} {path parent directory file : String} {before : List String}
    {place : Place} {mode : Nat} (names : NamesFile path parent before directory file)
    (leads : before.foldlM w.disk.step (if isAbsolute path then [] else w.disk.working) = .ok place)
    (held : w.disk.node? place = some (.directory mode)) (free : w.disk.node? (place ++ [directory]) = none)
    (freeWithin : (w.disk.put (place ++ [directory]) (.directory 0o755)).node? (place ++ [directory] ++ [file]) =
      none) : IsWritable w path := by
  let disk := w.disk.put (place ++ [directory]) (.directory 0o755)
  have made : (makeParent path : InWorkspace _).run w = (.ok (), { w with disk }) := by
    have found : w.disk.findLast parent = .ok (some (place, directory)) := by
      apply Disk.findLast_of_follow names.steps_parent ?_ held names.named.1.2
      rw [Disk.follow, Disk.check_eq_ok names.fine_parent, names.sameStart]
      exact leads
    apply run_makeParent names.above names.fine_parent.2.1
    show w.change (w.disk.makeDirectory parent) = _
    rw [Disk.makeDirectory_of_free found (Disk.step_of_directory held names.named.1 names.named.2) free]
    rfl
  -- The new directory takes no other one's place, so the path still leads to where it is.
  have noDirectory : ∀ mode, w.disk.node? (place ++ [directory]) ≠ some (.directory mode) := by simp [free]
  obtain ⟨isThere, keeps⟩ := Disk.put_of_noDirectory (.directory 0o755) noDirectory
  obtain ⟨mode', held'⟩ := keeps place mode held
  have reached : disk.follow path (before ++ [directory]) = .ok (place ++ [directory]) := by
    refine Disk.follow_append ?_ (Disk.step_of_directory held' names.named.1 names.named.2)
    rw [Disk.follow, Disk.check_eq_ok names.fine, Disk.working_put]
    exact Disk.foldlM_step_of_keeps keeps leads
  have found : disk.findLast path = .ok (some (place ++ [directory], file)) :=
    Disk.findLast_of_follow names.steps_eq reached isThere names.named_file.1.2
  have stepped := Disk.step_of_directory isThere names.named_file.1 names.named_file.2
  refine ⟨_, made, ?_⟩
  rw [Disk.write_of_free names.noSlash found stepped freeWithin]
  rfl

end NewDirectory

/-- A workspace in an empty directory. -/
def atWork : Workspace :=
  { Workspace.empty with disk := { nodes := [("/work", .directory 0o755)], working := ["work"] } }

/-- Below the working directory, beside it and from the root a file can be written in a directory that is not there
yet. -/
theorem isWritable_atWork :
    ∀ path ∈ ["etc/settings.toml", "../etc/settings.toml", "/etc/settings.toml"], IsWritable atWork path := by
  have below : NamesFile "etc/settings.toml" "etc" [] "etc" "settings.toml" := by constructor <;> decide
  have beside : NamesFile "../etc/settings.toml" "../etc" [".."] "etc" "settings.toml" := by constructor <;> decide
  have fromRoot : NamesFile "/etc/settings.toml" "/etc" [] "etc" "settings.toml" := by constructor <;> decide
  refine List.forall_mem_cons.2 ⟨?_, List.forall_mem_cons.2 ⟨?_, List.forall_mem_singleton.2 ?_⟩⟩
  · exact isWritable_of_newDirectory below rfl rfl rfl rfl
  · exact isWritable_of_newDirectory beside rfl rfl rfl rfl
  · exact isWritable_of_newDirectory fromRoot rfl rfl rfl rfl

/-- Settings with the longest rankings that are saved, and with texts for all kinds of strings. -/
def motley : Settings where
  audit := ⟨365, bound 63 - 1, 500, ["From", "X-\"quoted\"", "List-Id\t", "\"'\n\\"]⟩
  lint := ⟨1, [" Dead ", "MISSING-label"]⟩
  filters := ⟨false, "", some "C:\\mail", none⟩
  rate := ⟨250, bound 32 - 1⟩

/-- They are saved and loaded below the working directory, beside it and from the root. -/
theorem load_save_motley : motley.HasWidths ∧ motley.check = .ok () ∧ motley.audit.topN < bound 63 ∧
    ∀ path ∈ ["etc/settings.toml", "../etc/settings.toml", "/etc/settings.toml"], IsWritable atWork path ∧
      ∃ w', (save motley path : InWorkspace _).run atWork = (.ok (), w') ∧
        ((load path : InWorkspace _).run w').1 = .ok motley := by
  have widths : motley.HasWidths := by constructor <;> decide
  have faultless : motley.fault? = none := by decide
  have usable : motley.check = .ok () := by rw [check, faultless]
  have small : motley.audit.topN < bound 63 := by decide
  refine ⟨widths, usable, small, fun path listed => ?_⟩
  have writable := isWritable_atWork path listed
  exact ⟨writable, (load_save widths usable writable).1 small⟩

/-- The default settings with longer rankings than any number of TOML. -/
def tooLong : Settings :=
  { default with audit := { Sampling.default with topN := bound 64 - 1 } }

/-- Usable settings that are not saved. -/
theorem unsaved_tooLong : tooLong.HasWidths ∧ tooLong.check = .ok () ∧
    IsWritable atWork "etc/settings.toml" ∧
    ((save tooLong "etc/settings.toml" : InWorkspace _).run atWork).1 =
      .error (.config "Failed to serialize config: a number is out of range") := by
  have widths : tooLong.HasWidths := by constructor <;> decide
  have faultless : tooLong.fault? = none := by decide
  have usable : tooLong.check = .ok () := by rw [check, faultless]
  have large : ¬tooLong.audit.topN < bound 63 := by decide
  have unwritten : tooLong.toToml? = none := by
    rwa [← Option.not_isSome_iff_eq_none, isSome_toToml? widths]
  have writable : IsWritable atWork "etc/settings.toml" := isWritable_atWork _ List.mem_cons_self
  refine ⟨widths, usable, writable, ?_⟩
  obtain ⟨w', made, -⟩ := writable
  rw [run_save_of_none made unwritten]

end InboxAudit.Settings
