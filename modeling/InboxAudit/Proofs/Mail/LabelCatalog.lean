import InboxAudit.Mail.LabelCatalog
import Mathlib.Data.List.Induction

/-!
# What a catalog holds

Both indexes of a catalog grow with every label that is recorded, and neither ever loses a key.
So a name that some identifier has stands in the index by name
(`LabelCatalog.containsName_of_nameOf`), although the index by name may hold names that no
identifier has any more.

Each index shows the last label that was recorded under its key (`nameOf_ofList_iff`,
`idOf_ofList_iff`). The last label of a name need not be the last one of its identifier, and the
indexes agree exactly where it always is (`indexes_agree_iff`).
-/

namespace InboxAudit
set_option autoImplicit false

section LastEntries

variable {α β : Type} {key : α → β} {items : List α} {a b : α}

/-- No item after this one has its key. -/
def IsLast (key : α → β) (items : List α) (a : α) : Prop :=
  ∃ front back, items = front ++ a :: back ∧ ∀ other ∈ back, key other ≠ key a

theorem IsLast.mem (h : IsLast key items a) : a ∈ items := by
  obtain ⟨front, back, rfl, -⟩ := h
  simp

theorem isLast_concat_iff : IsLast key (items ++ [b]) a ↔ a = b ∨ IsLast key items a ∧ key b ≠ key a := by
  constructor
  · rintro ⟨front, back, split, new⟩
    rcases List.eq_nil_or_concat back with rfl | ⟨back, last, rfl⟩
    · exact .inl (List.append_inj_right' split rfl |> List.cons.inj).1.symm
    · rw [List.concat_eq_append, ← List.cons_append, ← List.append_assoc] at split
      obtain ⟨rfl, same⟩ := List.append_inj' split rfl
      obtain rfl : b = last := (List.cons.inj same).1
      rw [List.concat_eq_append] at new
      exact .inr ⟨⟨front, back, rfl, fun other mem => new other (List.mem_append_left _ mem)⟩,
        new b (List.mem_append_right _ (List.mem_singleton_self b))⟩
  · rintro (rfl | ⟨⟨front, back, rfl, new⟩, other⟩)
    · exact ⟨items, [], rfl, fun _ none => absurd none List.not_mem_nil⟩
    · refine ⟨front, back ++ [b], by simp, fun c mem => ?_⟩
      rcases List.mem_append.1 mem with mem | mem
      · exact new c mem
      · rwa [List.mem_singleton.1 mem]

theorem exists_isLast (key : α → β) (mem : a ∈ items) : ∃ b, IsLast key items b ∧ key b = key a := by
  induction items using List.reverseRecOn with
  | nil => cases mem
  | append_singleton items last ih =>
    by_cases same : key last = key a
    · exact ⟨last, isLast_concat_iff.2 (.inl rfl), same⟩
    · rcases List.mem_append.1 mem with mem | mem
      · obtain ⟨b, isLast, equal⟩ := ih mem
        exact ⟨b, isLast_concat_iff.2 (.inr ⟨isLast, equal ▸ same⟩), equal⟩
      · exact absurd (congrArg key (List.mem_singleton.1 mem)).symm same

/-- A table that is filled item by item shows the last item of a key. -/
theorem Table.get?_foldl_put_iff {α β : Type} {key : α → String} {value : α → β} {items : List α} {k : String}
    {v : β} : get? (items.foldl (fun table a => put table (key a) (value a)) []) k = some v ↔
      ∃ a, IsLast key items a ∧ key a = k ∧ value a = v := by
  induction items using List.reverseRecOn with
  | nil => simp [IsLast]
  | append_singleton items last ih =>
    rw [List.foldl_append, List.foldl_cons, List.foldl_nil, get?_put]
    simp only [isLast_concat_iff]
    split
    · next same =>
      constructor
      · intro shown
        exact ⟨last, .inl rfl, same, Option.some.inj shown⟩
      · rintro ⟨a, rfl | ⟨-, other⟩, rfl, rfl⟩
        · rfl
        · exact absurd same other
    · next other =>
      rw [ih]
      constructor
      · rintro ⟨a, isLast, rfl, rfl⟩
        exact ⟨a, .inr ⟨isLast, other⟩, rfl, rfl⟩
      · rintro ⟨a, rfl | ⟨isLast, -⟩, rfl, rfl⟩
        · exact absurd rfl other
        · exact ⟨a, isLast, rfl, rfl⟩

end LastEntries

namespace Mail.LabelCatalog

theorem nameOf_insert (c : LabelCatalog) {id : LabelId} {name : String} (complete : id ≠ "" ∧ name ≠ "")
    (other : LabelId) :
    (c.insert id name).nameOf other = if id = other then some name else c.nameOf other := by
  rw [insert, if_neg (not_or.2 complete), nameOf, Table.get?_put]
  rfl

theorem containsName_insert (c : LabelCatalog) {id : LabelId} {name : String}
    (complete : id ≠ "" ∧ name ≠ "") (other : String) :
    (c.insert id name).containsName other = (name == other || c.containsName other) := by
  rw [insert, if_neg (not_or.2 complete), containsName, containsName, Table.hasKey, Table.get?_put]
  by_cases same : name = other
  · simp [same]
  · simp [same, Table.hasKey]

/-- Every name that an identifier has stands in the index by name. -/
def NamesIndexed (c : LabelCatalog) : Prop :=
  ∀ id name, c.nameOf id = some name → c.containsName name = true

theorem NamesIndexed.insert {c : LabelCatalog} (h : c.NamesIndexed) (id : LabelId) (name : String) :
    (c.insert id name).NamesIndexed := by
  by_cases blank : id = "" ∨ name = ""
  · rw [LabelCatalog.insert, if_pos blank]
    exact h
  · have complete : id ≠ "" ∧ name ≠ "" := not_or.1 blank
    intro id' name' named
    rw [nameOf_insert c complete] at named
    rw [containsName_insert c complete, Bool.or_eq_true]
    split at named
    · exact .inl (beq_iff_eq.2 (Option.some.inj named))
    · exact .inr (h id' name' named)

theorem namesIndexed_ofList (labels : List (LabelId × String)) : (ofList labels).NamesIndexed := by
  suffices fill : ∀ c : LabelCatalog, c.NamesIndexed →
      (labels.foldl (fun c label => c.insert label.1 label.2) c).NamesIndexed by
    apply fill empty
    intro id name named
    cases named
  induction labels with
  | nil => exact fun c h => h
  | cons label rest ih => exact fun c h => ih _ (h.insert label.1 label.2)

theorem containsName_of_nameOf {labels : List (LabelId × String)} {id : LabelId} {name : String}
    (named : (ofList labels).nameOf id = some name) : (ofList labels).containsName name = true :=
  namesIndexed_ofList labels id name named

/-- Of some labels those with an identifier and a name. -/
def recorded (labels : List (LabelId × String)) : List (LabelId × String) :=
  labels.filter fun label => label.1 ≠ "" ∧ label.2 ≠ ""

theorem foldl_insert_eq (labels : List (LabelId × String)) (c : LabelCatalog) :
    labels.foldl (fun c label => c.insert label.1 label.2) c =
      ⟨(recorded labels).foldl (fun table label => table.put label.2 label.1) c.byName,
        (recorded labels).foldl (fun table label => table.put label.1 label.2) c.byId⟩ := by
  induction labels generalizing c with
  | nil => rfl
  | cons label rest ih =>
    have step : recorded (label :: rest) =
        if label.1 ≠ "" ∧ label.2 ≠ "" then label :: recorded rest else recorded rest := by
      simp only [recorded, List.filter_cons, decide_eq_true_eq]
    rw [List.foldl_cons, ih, step]
    by_cases blank : label.1 = "" ∨ label.2 = ""
    · have ignored : ¬(label.1 ≠ "" ∧ label.2 ≠ "") := fun complete => blank.elim complete.1 complete.2
      rw [insert, if_pos blank, if_neg ignored]
    · rw [insert, if_neg blank, if_pos (not_or.1 blank)]
      rfl

section Indexes

variable {labels : List (LabelId × String)} {id : LabelId} {name : String}

/-- An identifier has the name under which it was recorded last. -/
theorem nameOf_ofList_iff :
    (ofList labels).nameOf id = some name ↔ IsLast Prod.fst (recorded labels) (id, name) := by
  rw [nameOf, ofList, foldl_insert_eq, empty, Table.get?_foldl_put_iff]
  constructor
  · rintro ⟨_, isLast, rfl, rfl⟩
    exact isLast
  · exact fun isLast => ⟨_, isLast, rfl, rfl⟩

/-- A name stands for the identifier that was recorded under it last. -/
theorem idOf_ofList_iff :
    (ofList labels).idOf name = some id ↔ IsLast Prod.snd (recorded labels) (id, name) := by
  rw [idOf, ofList, foldl_insert_eq, empty, Table.get?_foldl_put_iff]
  constructor
  · rintro ⟨_, isLast, rfl, rfl⟩
    exact isLast
  · exact fun isLast => ⟨_, isLast, rfl, rfl⟩

theorem containsName_ofList_iff :
    (ofList labels).containsName name = true ↔ ∃ id, (id, name) ∈ recorded labels := by
  have shown : (ofList labels).containsName name = true ↔ ∃ id, (ofList labels).idOf name = some id :=
    Option.isSome_iff_exists
  rw [shown]
  simp only [idOf_ofList_iff]
  constructor
  · rintro ⟨id, isLast⟩
    exact ⟨id, isLast.mem⟩
  · rintro ⟨id, mem⟩
    obtain ⟨⟨last, name'⟩, isLast, same⟩ := exists_isLast Prod.snd mem
    obtain rfl : name' = name := same
    exact ⟨last, isLast⟩

/-- Where no identifier was recorded under two names, the last label of a name is the last one of its
identifier. -/
theorem isLast_fst_of_snd (single : ∀ a ∈ recorded labels, ∀ b ∈ recorded labels, a.1 = b.1 → a.2 = b.2)
    {label : LabelId × String} (isLast : IsLast Prod.snd (recorded labels) label) :
    IsLast Prod.fst (recorded labels) label := by
  have mem := isLast.mem
  obtain ⟨front, back, split, new⟩ := isLast
  refine ⟨front, back, split, fun other later same => new other later ?_⟩
  exact single other (by rw [split]; simp [later]) label mem same

end Indexes

/-- The names that the catalog contains are all those recorded, and they include those that the identifiers have. They
are no others exactly if each recorded name is the one under which some identifier was recorded last. Each name stands
for an identifier that has it exactly if the label that was recorded last under a name was always the last one of its
identifier too. Both hold where no identifier was recorded under two names. -/
theorem indexes_agree_iff (labels : List (LabelId × String)) :
    let catalog := ofList labels
    (∀ id name, catalog.nameOf id = some name ↔ IsLast Prod.fst (recorded labels) (id, name)) ∧
    (∀ name id, catalog.idOf name = some id ↔ IsLast Prod.snd (recorded labels) (id, name)) ∧
    (∀ name, catalog.containsName name = true ↔ ∃ id, (id, name) ∈ recorded labels) ∧
    (∀ id name, catalog.nameOf id = some name → catalog.containsName name = true) ∧
    ((∀ name, catalog.containsName name = true ↔ ∃ id, catalog.nameOf id = some name) ↔
      ∀ label ∈ recorded labels, ∃ id, IsLast Prod.fst (recorded labels) (id, label.2)) ∧
    ((∀ name id, catalog.idOf name = some id → catalog.nameOf id = some name) ↔
      ∀ label, IsLast Prod.snd (recorded labels) label → IsLast Prod.fst (recorded labels) label) ∧
    ((∀ a ∈ recorded labels, ∀ b ∈ recorded labels, a.1 = b.1 → a.2 = b.2) →
      (∀ name, catalog.containsName name = true ↔ ∃ id, catalog.nameOf id = some name) ∧
        ∀ name id, catalog.idOf name = some id → catalog.nameOf id = some name) := by
  intro catalog
  have names : (∀ name, catalog.containsName name = true ↔ ∃ id, catalog.nameOf id = some name) ↔
      ∀ label ∈ recorded labels, ∃ id, IsLast Prod.fst (recorded labels) (id, label.2) := by
    simp only [catalog, containsName_ofList_iff, nameOf_ofList_iff]
    constructor
    · exact fun agree label mem => (agree label.2).1 ⟨label.1, mem⟩
    · intro shown name
      constructor
      · rintro ⟨id, mem⟩
        exact shown (id, name) mem
      · rintro ⟨id, isLast⟩
        exact ⟨id, isLast.mem⟩
  have entries : (∀ name id, catalog.idOf name = some id → catalog.nameOf id = some name) ↔
      ∀ label, IsLast Prod.snd (recorded labels) label → IsLast Prod.fst (recorded labels) label := by
    simp only [catalog, idOf_ofList_iff, nameOf_ofList_iff, Prod.forall]
    exact forall_comm
  refine ⟨fun id name => nameOf_ofList_iff, fun name id => idOf_ofList_iff, fun name => containsName_ofList_iff,
    fun id name => containsName_of_nameOf, names, entries, fun single => ⟨names.2 ?_, entries.2 ?_⟩⟩
  · intro label mem
    obtain ⟨⟨id, name⟩, isLast, same⟩ := exists_isLast Prod.snd mem
    obtain rfl : name = label.2 := same
    exact ⟨id, isLast_fst_of_snd single isLast⟩
  · exact fun label => isLast_fst_of_snd single

/-- Labels may share a name, be recorded again and be blank. -/
theorem indexes_agree_shared :
    let labels := [("L1", "Work"), ("L2", "Work"), ("", "Lost"), ("L3", "Old"), ("L1", "Work")]
    (∀ a ∈ recorded labels, ∀ b ∈ recorded labels, a.1 = b.1 → a.2 = b.2) ∧
      ((ofList labels).containsName "Work" = true ↔ ∃ id, (ofList labels).nameOf id = some "Work") ∧
      (ofList labels).idOf "Work" = some "L1" ∧ (ofList labels).nameOf "L1" = some "Work" := by
  intro labels
  have single : ∀ a ∈ recorded labels, ∀ b ∈ recorded labels, a.1 = b.1 → a.2 = b.2 := by decide
  have shown : (ofList labels).idOf "Work" = some "L1" := by decide
  obtain ⟨-, -, -, -, -, -, agree⟩ := indexes_agree_iff labels
  obtain ⟨names, entries⟩ := agree single
  exact ⟨single, names "Work", shown, entries "Work" "L1" shown⟩

/-- A label that is recorded under a new name leaves its old name behind, which no label has any more, and takes the
name with it that it shares with another label. -/
theorem indexes_disagree_renamed :
    let renamed := ofList [("L1", "Old"), ("L1", "New")]
    let shared := ofList [("L1", "Work"), ("L2", "Work"), ("L2", "Play")]
    (renamed.containsName "Old" = true ∧ (¬∃ id, renamed.nameOf id = some "Old") ∧
      renamed.idOf "Old" = some "L1" ∧ renamed.nameOf "L1" = some "New") ∧
    shared.idOf "Work" = some "L2" ∧ shared.nameOf "L2" = some "Play" ∧ shared.nameOf "L1" = some "Work" := by
  intro renamed shared
  refine ⟨⟨by decide, ?_, by decide, by decide⟩, by decide⟩
  rintro ⟨id, named⟩
  have listed : (id, "Old") ∈ recorded [("L1", "Old"), ("L1", "New")] := (nameOf_ofList_iff.1 named).mem
  obtain rfl : id = "L1" := by simpa [recorded] using listed
  exact absurd named (by decide)

end Mail.LabelCatalog

end InboxAudit
