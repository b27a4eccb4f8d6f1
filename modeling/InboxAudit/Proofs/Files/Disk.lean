import InboxAudit.Files.Disk
import InboxAudit.Proofs.Collections.Outcomes
import InboxAudit.Proofs.Files.Path

/-!
# Files read back

What was written under a path, be it absolute or not, is found there (`stat_of_put`) and read back
(`read_of_write`): a file takes no directory's place, so the path still leads where it led. Only a new file gets
the permission bits that are asked for (`write_eq_ok`), and nothing else in the tree changes (`get?_put_nodes`).
Whether a file can be written does not depend on its content (`isOk_write`). The path of names from the root
leads to the place of these names (`write_fromRoot`).
-/

namespace InboxAudit.Files
set_option autoImplicit false

namespace Disk

variable {disk disk' : Disk} {place target : Place} {name path : String} {mode : Nat} {node : Node}
  {content : List UInt8}

/-- Every directory of the first disk is one of the second. -/
def KeepsDirectories (disk disk' : Disk) : Prop :=
  ∀ place mode, disk.node? place = some (.directory mode) →
    ∃ mode', disk'.node? place = some (.directory mode')

/-- A step leads to the same place while directories remain. -/
theorem step_of_keeps (keeps : KeepsDirectories disk disk')
    (leads : disk.step place name = .ok target) : disk'.step place name = .ok target := by
  unfold step at leads
  split at leads
  · cases leads
  · cases leads
  · next mode directory =>
    obtain ⟨mode', directory'⟩ := keeps place mode directory
    unfold step
    rw [directory']
    exact leads

theorem foldlM_step_of_keeps (keeps : KeepsDirectories disk disk') {steps : List String}
    (leads : steps.foldlM disk.step place = .ok target) :
    steps.foldlM disk'.step place = .ok target := by
  induction steps generalizing place with
  | nil => exact leads
  | cons name steps ih =>
    rw [List.foldlM_cons] at leads ⊢
    obtain ⟨next, first, rest⟩ := bind_eq_ok.1 leads
    exact bind_eq_ok.2 ⟨next, step_of_keeps keeps first, ih rest⟩

theorem node?_cons (first : String) (rest : List String) :
    disk.node? (first :: rest) = disk.nodes.get? (Path.fromRoot (first :: rest)) := rfl

theorem working_put (target : Place) (node : Node) : (disk.put target node).working = disk.working := by
  cases target <;> rfl

theorem put_eq_nodes (target : Place) (node : Node) :
    disk.put target node = { disk with nodes := (disk.put target node).nodes } := by
  cases target <;> rfl

/-- Nothing changes but what is at the place. -/
theorem get?_put_nodes {other : String} (apart : other ≠ Path.fromRoot target) :
    (disk.put target node).nodes.get? other = disk.nodes.get? other := by
  cases target with
  | nil => rfl
  | cons first rest => exact (Table.get?_put _ _ _ _).trans (if_neg apart.symm)

/-- A node that takes no directory's place is found at its place, and directories remain. -/
theorem put_of_noDirectory (node : Node) (noDirectory : ∀ mode, disk.node? target ≠ some (.directory mode)) :
    (disk.put target node).node? target = some node ∧ KeepsDirectories disk (disk.put target node) := by
  cases target with
  | nil => exact absurd rfl (noDirectory 0o755)
  | cons first rest =>
    rw [node?_cons] at noDirectory
    refine ⟨(Table.get?_put _ _ _ _).trans (if_pos rfl), ?_⟩
    intro place mode directory
    cases place with
    | nil => exact ⟨mode, directory⟩
    | cons first' rest' =>
      rw [node?_cons] at directory
      have apart : Path.fromRoot (first' :: rest') ≠ Path.fromRoot (first :: rest) := by
        intro same
        rw [same] at directory
        exact noDirectory mode directory
      exact ⟨mode, by rw [node?_cons, get?_put_nodes apart, directory]⟩

/-- The file that a path leads to, or the place where it may be made. -/
structure Targets (disk : Disk) (path : String) (target : Place) : Prop where
  noSlash : Path.endsInSlash path = false
  leads : disk.follow path (Path.steps path) = .ok target
  noDirectory : ∀ mode, disk.node? target ≠ some (.directory mode)

theorem follow_append {before : List String} {last : String}
    (first : disk.follow path before = .ok place) (leads : disk.step place last = .ok target) :
    disk.follow path (before ++ [last]) = .ok target := by
  obtain ⟨_, checked, steps⟩ := bind_eq_ok.1 first
  refine bind_eq_ok.2 ⟨_, checked, ?_⟩
  rw [List.foldlM_append]
  refine bind_eq_ok.2 ⟨place, steps, ?_⟩
  rw [List.foldlM_cons]
  exact bind_eq_ok.2 ⟨target, leads, rfl⟩

theorem follow_of_findLast {last : String} (found : disk.findLast path = .ok (some (place, last)))
    (leads : disk.step place last = .ok target) :
    disk.follow path (Path.steps path) = .ok target := by
  unfold findLast at found
  split at found
  · obtain ⟨_, -, none⟩ := bind_eq_ok.1 found
    cases none
  · next last' before reversed =>
    rw [List.reverse_eq_cons_iff.1 reversed]
    obtain ⟨place', first, found⟩ := bind_eq_ok.1 found
    split at found
    · cases found
    · cases found
    · split at found
      · cases found
      · cases found
        exact follow_append first leads

theorem findLast_of_follow {before : List String} {last : String}
    (steps : Path.steps path = before ++ [last]) (first : disk.follow path before = .ok place)
    (directory : disk.node? place = some (.directory mode)) (named : last ≠ "." ∧ last ≠ "..") :
    disk.findLast path = .ok (some (place, last)) := by
  have reversed : (Path.steps path).reverse = last :: before.reverse := by simp [steps]
  rw [findLast, reversed]
  dsimp only
  rw [List.reverse_reverse]
  refine bind_eq_ok.2 ⟨place, first, ?_⟩
  rw [directory]
  exact if_neg (not_or.2 named)

theorem check_eq_ok (fine : '\x00' ∉ path.toList ∧ path ≠ "" ∧ path.utf8ByteSize < 4096) :
    Disk.check path = .ok () := by
  rw [check, String.contains_char_eq, if_neg (by simpa using fine.1), if_neg fine.2.1,
    if_neg (Nat.not_le.2 fine.2.2)]

/-- A path without a slash at its end stands for what is where it leads. -/
theorem stat_of_targets (targets : disk.Targets path target) :
    disk.stat path = match disk.node? target with
      | none => .error .notFound
      | some node => .ok node := by
  unfold stat find
  rw [targets.leads]
  cases held : disk.node? target with
  | none => simp [held, bind, Except.bind]
  | some node =>
    cases node with
    | directory mode => exact absurd held (targets.noDirectory mode)
    | file mode content => simp [held, targets.noSlash, bind, Except.bind, pure, Except.pure]

/-- The permission bits of a file that is written where there was a node, or where there was none. -/
def modeOver (mode : Nat) : Option Node → Nat
  | none => allowed mode
  | some old => old.mode

/-- A file is written where the path leads, and nowhere else. -/
theorem write_eq_ok (written : disk.write path mode content = .ok disk') :
    ∃ target, disk.Targets path target ∧
      disk' = disk.put target (.file (modeOver mode (disk.node? target)) content) := by
  obtain ⟨found, last, written⟩ := bind_eq_ok.1 written
  match found with
  | none => cases written
  | some (place, name) =>
    dsimp only at written
    split at written
    · cases written
    · next noSlash =>
      obtain ⟨target, leads, written⟩ := bind_eq_ok.1 written
      have reached := follow_of_findLast last leads
      split at written
      · cases written
      · next file =>
        refine ⟨target, ⟨by simpa using noSlash, reached, by simp [file]⟩, ?_⟩
        rw [file]
        exact (Except.ok.inj written).symm
      · next free =>
        refine ⟨target, ⟨by simpa using noSlash, reached, by simp [free]⟩, ?_⟩
        rw [free]
        exact (Except.ok.inj written).symm

/-- A new file is written where a path leads to nothing. -/
theorem write_of_free (noSlash : Path.endsInSlash path = false) (found : disk.findLast path = .ok (some (place, name)))
    (leads : disk.step place name = .ok target) (free : disk.node? target = none) :
    disk.write path mode content = .ok (disk.put target (.file (allowed mode) content)) := by
  refine bind_eq_ok.2 ⟨_, found, ?_⟩
  dsimp only
  rw [if_neg (by simp [noSlash])]
  refine bind_eq_ok.2 ⟨target, leads, ?_⟩
  rw [free]
  rfl

/-- A new directory is made where a path leads to nothing. -/
theorem makeDirectory_of_free (found : disk.findLast path = .ok (some (place, name)))
    (leads : disk.step place name = .ok target) (free : disk.node? target = none) :
    disk.makeDirectory path = .ok (disk.put target (.directory (allowed 0o777))) := by
  refine bind_eq_ok.2 ⟨_, found, bind_eq_ok.2 ⟨target, leads, ?_⟩⟩
  rw [free]
  rfl

/-- The path still leads to the node that took its place. -/
theorem Targets.put (targets : disk.Targets path target) (mode : Nat) (content : List UInt8) :
    (disk.put target (.file mode content)).Targets path target ∧
      (disk.put target (.file mode content)).node? target = some (.file mode content) := by
  -- The steps go through directories alone, and these are where they were.
  obtain ⟨placed, keeps⟩ := put_of_noDirectory (.file mode content) targets.noDirectory
  obtain ⟨_, checked, steps⟩ := bind_eq_ok.1 targets.leads
  have leads : (disk.put target (.file mode content)).follow path (Path.steps path) = .ok target := by
    refine bind_eq_ok.2 ⟨_, checked, ?_⟩
    rw [working_put]
    exact foldlM_step_of_keeps keeps steps
  exact ⟨⟨targets.noSlash, leads, by simp [placed]⟩, placed⟩

theorem stat_of_put (targets : disk.Targets path target) (mode : Nat) (content : List UInt8) :
    (disk.put target (.file mode content)).stat path = .ok (.file mode content) := by
  obtain ⟨targets, placed⟩ := targets.put mode content
  rw [stat_of_targets targets, placed]

theorem stat_of_write (written : disk.write path mode content = .ok disk') :
    ∃ mode', disk'.stat path = .ok (.file mode' content) := by
  obtain ⟨target, targets, rfl⟩ := write_eq_ok written
  exact ⟨_, stat_of_put targets _ _⟩

theorem read_of_stat (known : disk.stat path = .ok (.file mode content)) :
    disk.read path = .ok content := by
  obtain ⟨⟨place, node⟩, found, same⟩ := bind_eq_ok.1 known
  cases same
  exact bind_eq_ok.2 ⟨_, found, rfl⟩

/-- What was written under a path is read back. -/
theorem read_of_write (written : disk.write path mode content = .ok disk') :
    disk'.read path = .ok content := by
  obtain ⟨mode', known⟩ := stat_of_write written
  exact read_of_stat known

/-- Whether a file can be written does not depend on its content. -/
theorem isOk_write (content content' : List UInt8) :
    (disk.write path mode content).isOk = (disk.write path mode content').isOk := by
  refine isOk_bind fun found => ?_
  match found with
  | none => rfl
  | some (place, name) =>
    dsimp only
    split
    · rfl
    · refine isOk_bind fun target => ?_
      split
      · rfl
      · rfl
      · rfl

section Names

open InboxAudit.Files.Path (AreNames IsName fromRoot)

variable {base names : List String}

theorem step_of_isName (named : IsName name) (leads : disk.step base name = .ok place) :
    place = base ++ [name] := by
  unfold step at leads
  split at leads
  · cases leads
  · cases leads
  · split at leads
    · cases leads
    · rw [if_neg named.2.1, if_neg named.2.2] at leads
      exact (Except.ok.inj leads).symm

theorem step_of_directory (directory : disk.node? base = some (.directory mode)) (named : IsName name)
    (short : name.utf8ByteSize ≤ 255) : disk.step base name = .ok (base ++ [name]) := by
  unfold step
  rw [directory]
  dsimp only
  rw [if_neg (Nat.not_lt.2 short), if_neg named.2.1, if_neg named.2.2]

/-- Names lead straight down. -/
theorem foldlM_step_of_names (named : ∀ name ∈ names, IsName name)
    (leads : names.foldlM disk.step base = .ok place) : place = base ++ names := by
  induction names generalizing base with
  | nil =>
    rw [List.append_nil]
    exact (Except.ok.inj leads).symm
  | cons name names ih =>
    obtain ⟨first, others⟩ := List.forall_mem_cons.1 named
    rw [List.foldlM_cons] at leads
    obtain ⟨next, stepped, rest⟩ := bind_eq_ok.1 leads
    cases step_of_isName first stepped
    rw [ih others rest, List.append_assoc, List.singleton_append]

/-- What is written under the path of names from the root is put at the place of these names. -/
theorem write_fromRoot (named : AreNames names)
    (written : disk.write (fromRoot names) mode content = .ok disk') :
    disk.Targets (fromRoot names) names ∧
      disk' = disk.put names (.file (modeOver mode (disk.node? names)) content) := by
  obtain ⟨target, targets, rfl⟩ := write_eq_ok written
  obtain ⟨_, -, stepped⟩ := bind_eq_ok.1 targets.leads
  rw [Path.steps_fromRoot named, Path.isAbsolute_fromRoot, if_pos rfl] at stepped
  cases foldlM_step_of_names (fun name mem => (named name mem).1) stepped
  exact ⟨targets, rfl⟩

end Names

end Disk

end InboxAudit.Files
