import InboxAudit.Files.Path
import InboxAudit.Proofs.Text.Parts

/-!
# Names and paths

A path of names has these names for its parts (`parts_ofParts`), and from the root for its steps
(`steps_fromRoot`). A path is joined to that of a directory by a slash, unless there is one already, so the
parts of both stand behind each other (`exists_parts_join`); behind a place in the tree they are the path of a
place below it (`join_fromRoot`).
-/

namespace InboxAudit.Files.Path
set_option autoImplicit false

open Text

variable {path directory : String} {names base : List String}

theorem slash_not_mem {name : String} (mem : name ∈ parts path) : '/' ∉ name.toList := by
  obtain ⟨piece, listed, rfl⟩ := List.mem_map.1 mem
  rw [String.toList_ofList]
  intro slash
  simpa using eq_false_of_mem_pieces listed '/' slash

theorem parts_ofParts (filled : names ≠ []) (free : ∀ name ∈ names, '/' ∉ name.toList) :
    parts (ofParts names) = names :=
  ofList_pieces_intercalate rfl filled free

/-- A path with another one behind it has the parts of both. -/
theorem parts_ofParts_pair (front back : String) :
    parts (ofParts [front, back]) = parts front ++ parts back := by
  have text : (ofParts [front, back]).toList = front.toList ++ '/' :: back.toList := by
    rw [ofParts, String.toList_intercalate]
    simp [List.intercalate_cons_cons]
  rw [parts, text, pieces_append_cons (by decide), List.map_append, parts, parts]

theorem parts_of_isAbsolute (absolute : isAbsolute path = true) : ∃ rest, parts path = "" :: rest := by
  rw [isAbsolute, beq_iff_eq] at absolute
  obtain ⟨rest, text⟩ := List.head?_eq_some_iff.1 absolute
  refine ⟨(pieces (· = '/') rest).map String.ofList, ?_⟩
  rw [parts, text, pieces, if_pos (by decide)]
  rfl

/-- Behind an empty path or a slash a path goes on with its own parts. -/
theorem exists_parts_append (ends : directory = "" ∨ endsInSlash directory = true) :
    ∃ front, parts directory = front ++ [""] ∧ ∀ path, parts (directory ++ path) = front ++ parts path := by
  rcases ends with rfl | slash
  · refine ⟨[], rfl, fun path => ?_⟩
    rw [String.empty_append, List.nil_append]
  · rw [endsInSlash, beq_iff_eq] at slash
    obtain ⟨before, text⟩ := List.getLast?_eq_some_iff.1 slash
    refine ⟨(pieces (· = '/') before).map String.ofList, ?_, fun path => ?_⟩
    · rw [parts, text, pieces_append_cons (by decide), List.map_append]
      rfl
    · rw [parts, String.toList_append, text, List.append_assoc, List.singleton_append,
        pieces_append_cons (by decide), List.map_append, parts]

/-- What a relative path is joined to ends in an empty part at most, and the parts of the path follow. -/
theorem exists_parts_join (relative : isAbsolute path = false) (directory : String) :
    ∃ front, (parts directory = front ∨ parts directory = front ++ [""]) ∧
      parts (join directory path) = front ++ parts path := by
  rw [join, if_neg (by simp [relative])]
  split
  · next ends =>
    obtain ⟨front, split, joined⟩ := exists_parts_append ends
    exact ⟨front, .inr split, joined path⟩
  · exact ⟨parts directory, .inl rfl, parts_ofParts_pair directory path⟩

theorem isAbsolute_fromRoot (names : List String) : isAbsolute (fromRoot names) = true := by
  rw [isAbsolute, fromRoot, String.toList_append]
  rfl

theorem isAbsolute_ofParts (named : AreNames names) : isAbsolute (ofParts names) = false := by
  rw [Bool.eq_false_iff]
  intro absolute
  cases names with
  | nil => exact absurd absolute (by decide)
  | cons first rest =>
    obtain ⟨others, split⟩ := parts_of_isAbsolute absolute
    rw [parts_ofParts (List.cons_ne_nil _ _) fun name mem => (named name mem).2] at split
    exact (named first List.mem_cons_self).1.1 (List.cons.inj split).1

theorem parts_fromRoot (names : List String) : parts (fromRoot names) = "" :: parts (ofParts names) := by
  rw [parts, fromRoot, String.toList_append, parts]
  rfl

theorem filter_names (named : AreNames names) : names.filter (· ≠ "") = names := by
  rw [List.filter_eq_self]
  intro name mem
  simpa using (named name mem).1.1

/-- The path of names from the root leads through these names. -/
theorem steps_fromRoot (named : AreNames names) : steps (fromRoot names) = names := by
  rw [steps, parts_fromRoot]
  cases names with
  | nil => rfl
  | cons first rest =>
    rw [parts_ofParts (List.cons_ne_nil _ _) fun name mem => (named name mem).2, List.filter_cons_of_neg (by decide),
      filter_names named]

/-- A path of names ends in a name, and only the root's path ends in a slash. -/
theorem endsInSlash_fromRoot_iff (named : AreNames names) : endsInSlash (fromRoot names) = true ↔ names = [] := by
  constructor
  · intro slash
    rcases List.eq_nil_or_concat names with rfl | ⟨before, last, rfl⟩
    · rfl
    · obtain ⟨front, split, -⟩ := exists_parts_append (.inr slash)
      rw [List.concat_eq_append] at named split
      rw [parts_fromRoot, parts_ofParts (by simp) fun name mem => (named name mem).2, ← List.cons_append] at split
      have empty : last = "" := List.singleton_inj.1 (List.append_inj' split rfl).2
      exact absurd empty (named last (by simp)).1.1
  · rintro rfl
    decide

theorem toList_ofParts_append (filled : base ≠ []) (filled' : names ≠ []) :
    (ofParts (base ++ names)).toList = (ofParts base).toList ++ '/' :: (ofParts names).toList := by
  have slashed (parts : List String) : (ofParts parts).toList = ['/'].intercalate (parts.map (·.toList)) := by
    rw [ofParts, String.toList_intercalate]
    rfl
  rw [slashed, slashed, slashed, List.map_append]
  induction base with
  | nil => exact absurd rfl filled
  | cons first rest ih =>
    cases rest with
    | nil =>
      obtain ⟨next, others, rfl⟩ := List.exists_cons_of_ne_nil filled'
      simp [List.intercalate_cons_cons]
    | cons second rest =>
      have later := ih (List.cons_ne_nil _ _)
      simp only [List.map_cons, List.cons_append, List.intercalate_cons_cons] at later ⊢
      rw [later]
      simp

/-- A path of names behind that of a place leads to a place below it. -/
theorem join_fromRoot (named : AreNames base) (named' : AreNames names) (filled : names ≠ []) :
    join (fromRoot base) (ofParts names) = fromRoot (base ++ names) := by
  have nonempty : fromRoot base ≠ "" := by
    intro empty
    have absolute := isAbsolute_fromRoot base
    rw [empty] at absolute
    cases absolute
  rw [join, if_neg (by simp [isAbsolute_ofParts named'])]
  by_cases root : base = []
  · rw [if_pos (.inr ((endsInSlash_fromRoot_iff named).2 root)), root]
    rfl
  · rw [if_neg (not_or.2 ⟨nonempty, fun slash => root ((endsInSlash_fromRoot_iff named).1 slash)⟩)]
    apply String.toList_inj.1
    rw [fromRoot, fromRoot, String.toList_append, toList_ofParts_append root filled, ofParts,
      String.toList_intercalate]
    simp [List.intercalate_cons_cons]

end InboxAudit.Files.Path
