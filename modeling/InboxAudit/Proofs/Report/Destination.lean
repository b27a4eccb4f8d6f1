import InboxAudit.Proofs.Files.Path
import InboxAudit.Report.File

/-!
# Destinations below the working directory

A walk through the names of a path is a sequence of moves: to stay, to go up to where the last name was taken, or
to take one more name (`Moves`, `Walks`). It can be made from wherever there are names enough to go back
(`exists_walks_iff`), and what is above its start makes no difference (`Walks.beneath`). A path is a destination
exactly if it is relative and the walk from the working directory goes nowhere above it and ends below it;
the destination is where the walk ends (`destination_exact`).
-/

namespace InboxAudit
set_option autoImplicit false

namespace Report

open Files.Path
open Text (strip)

/-- A move from one place to another by a name; a place is given by the names that lead to it. -/
inductive Moves : List String → String → List String → Prop where
  | stay (place : List String) {name : String} : name = "" ∨ name = "." → Moves place name place
  | up (place : List String) (last : String) : Moves (place ++ [last]) ".." place
  | down (place : List String) {name : String} : IsName name → Moves place name (place ++ [name])

/-- A walk from one place to another through the names of a path. -/
inductive Walks : List String → List String → List String → Prop where
  | done (place : List String) : Walks place [] place
  | move {place next last : List String} {name : String} {names : List String} :
      Moves place name next → Walks next names last → Walks place (name :: names) last

/-- The names that go up. -/
def ups (names : List String) : Nat := names.count ".."

/-- The names that go down. -/
def downs (names : List String) : Nat := names.countP (IsName ·)

section Walking

variable {place next last : List String} {name : String} {names : List String}

theorem moves_iff : Moves place name next ↔
    (name = "" ∨ name = ".") ∧ next = place ∨ name = ".." ∧ (∃ last, place = next ++ [last]) ∨
      IsName name ∧ next = place ++ [name] := by
  constructor
  · rintro (⟨_, stays⟩ | ⟨_, last⟩ | ⟨_, named⟩)
    · exact .inl ⟨stays, rfl⟩
    · exact .inr (.inl ⟨rfl, last, rfl⟩)
    · exact .inr (.inr ⟨named, rfl⟩)
  · rintro (⟨stays, rfl⟩ | ⟨rfl, last, rfl⟩ | ⟨named, rfl⟩)
    · exact .stay _ stays
    · exact .up _ last
    · exact .down _ named

theorem walks_nil_iff : Walks place [] last ↔ last = place := by
  constructor
  · rintro ⟨⟩
    rfl
  · rintro rfl
    exact .done _

theorem walks_cons_iff :
    Walks place (name :: names) last ↔ ∃ next, Moves place name next ∧ Walks next names last := by
  constructor
  · rintro (_ | ⟨first, others⟩)
    exact ⟨_, first, others⟩
  · rintro ⟨next, first, others⟩
    exact .move first others

theorem Moves.beneath (base : List String) (h : Moves place name next) :
    Moves (base ++ place) name (base ++ next) := by
  cases h with
  | stay _ stays => exact .stay _ stays
  | up _ last =>
    rw [← List.append_assoc]
    exact .up _ last
  | down _ named =>
    rw [← List.append_assoc]
    exact .down _ named

/-- What is above its start makes no difference to a walk. -/
theorem Walks.beneath (base : List String) (h : Walks place names last) :
    Walks (base ++ place) names (base ++ last) := by
  induction h with
  | done place => exact .done _
  | move first _ ih => exact .move (first.beneath base) ih

theorem Walks.append {names' : List String} {last' : List String} (h : Walks place names last)
    (h' : Walks last names' last') : Walks place (names ++ names') last' := by
  induction h with
  | done place => exact h'
  | move first _ ih => exact .move first (ih h')

/-- A walk through names and then through others comes by the end of the first ones. -/
theorem walks_append_iff {names' : List String} : Walks place (names ++ names') last ↔
    ∃ next, Walks place names next ∧ Walks next names' last := by
  constructor
  · induction names generalizing place with
    | nil => exact fun walk => ⟨place, .done place, walk⟩
    | cons name names ih =>
      intro walk
      obtain ⟨next, first, others⟩ := walks_cons_iff.1 walk
      obtain ⟨middle, before, after⟩ := ih others
      exact ⟨middle, .move first before, after⟩
  · rintro ⟨next, first, others⟩
    exact first.append others

/-- A walk by the path of a directory goes on by a relative path that is joined to it. -/
theorem Walks.join {directory path : String} (relative : isAbsolute path = false)
    (reached : Walks place (parts directory) next) (walk : Walks next (parts path) last) :
    Walks place (parts (Files.Path.join directory path)) last := by
  obtain ⟨front, split, joined⟩ := exists_parts_join relative directory
  rw [joined]
  rcases split with same | slash
  · exact (same ▸ reached).append walk
  · rw [slash] at reached
    obtain ⟨middle, before, stays⟩ := walks_append_iff.1 reached
    obtain ⟨_, moves, done⟩ := walks_cons_iff.1 stays
    rcases moves_iff.1 moves with ⟨-, rfl⟩ | ⟨goesUp, -⟩ | ⟨named, -⟩
    · exact before.append (walks_nil_iff.1 done ▸ walk)
    · exact absurd goesUp (by decide)
    · exact absurd rfl named.1

/-- Names alone go straight down. -/
theorem walks_of_names (place : List String) (named : ∀ name ∈ names, IsName name) :
    Walks place names (place ++ names) := by
  induction names generalizing place with
  | nil =>
    rw [List.append_nil]
    exact .done place
  | cons name rest ih =>
    obtain ⟨first, others⟩ := List.forall_mem_cons.1 named
    have straight := ih (place ++ [name]) others
    rw [List.append_assoc, List.singleton_append] at straight
    exact .move (.down place first) straight

/-- A walk ends at names that it started with or took. -/
theorem Walks.named (h : Walks place names last) :
    ∀ name ∈ last, name ∈ place ∨ name ∈ names ∧ IsName name := by
  induction h with
  | done place => exact fun name mem => .inl mem
  | @move place next last name names first _ ih =>
    intro other mem
    rcases ih other mem with before | ⟨later, named⟩
    · cases first with
      | stay _ _ => exact .inl before
      | up _ last => exact .inl (List.mem_append_left _ before)
      | down _ named =>
        rcases List.mem_append.1 before with before | new
        · exact .inl before
        · rw [List.mem_singleton.1 new]
          exact .inr ⟨List.mem_cons_self, named⟩
    · exact .inr ⟨List.mem_cons_of_mem _ later, named⟩

theorem ups_cons : ups (name :: names) = ups [name] + ups names := by
  simp only [ups, List.count_cons, List.count_nil]
  omega

theorem downs_cons : downs (name :: names) = downs [name] + downs names := by
  simp only [downs, List.countP_cons, List.countP_nil]
  omega

theorem Moves.length (h : Moves place name next) :
    next.length + ups [name] = place.length + downs [name] := by
  cases h with
  | stay _ stays => rcases stays with rfl | rfl <;> rfl
  | up _ last =>
    have one : ups [".."] = 1 ∧ downs [".."] = 0 := by decide
    rw [one.1, one.2, List.length_append, List.length_singleton]
  | down _ named =>
    have one : ups [name] = 0 ∧ downs [name] = 1 := by
      simp [ups, downs, named, named.2.2]
    rw [one.1, one.2, List.length_append, List.length_singleton]

/-- Each name of a walk that goes up takes back one that went down. -/
theorem Walks.length (h : Walks place names last) :
    last.length + ups names = place.length + downs names := by
  induction h with
  | done place => rfl
  | @move place next last name names first _ ih =>
    have step := first.length
    rw [ups_cons, downs_cons]
    omega

theorem exists_moves (enough : ups [name] ≤ place.length + downs [name]) : ∃ next, Moves place name next := by
  by_cases stays : name = "" ∨ name = "."
  · exact ⟨place, .stay place stays⟩
  by_cases goesUp : name = ".."
  · subst goesUp
    rcases List.eq_nil_or_concat place with rfl | ⟨before, last, rfl⟩
    · exact absurd enough (by decide)
    · rw [List.concat_eq_append]
      exact ⟨before, .up before last⟩
  · rw [not_or] at stays
    exact ⟨_, .down place ⟨stays.1, stays.2, goesUp⟩⟩

/-- A walk can be made if at no time more names went up than there are to take back. -/
theorem exists_walks_iff : (∃ last, Walks place names last) ↔
    ∀ front, front <+: names → ups front ≤ place.length + downs front := by
  induction names generalizing place with
  | nil =>
    refine ⟨fun _ front nothing => ?_, fun _ => ⟨place, .done place⟩⟩
    rw [List.prefix_nil.1 nothing]
    exact Nat.zero_le _
  | cons name names ih =>
    constructor
    · rintro ⟨last, walk⟩ front begins
      obtain ⟨next, first, others⟩ := walks_cons_iff.1 walk
      rcases List.prefix_cons_iff.1 begins with rfl | ⟨_, rfl, rest⟩
      · exact Nat.zero_le _
      · -- Each name is counted against the place from which it is taken, so the bound moves along with the walk.
        have later := ih.1 ⟨last, others⟩ _ rest
        have step := first.length
        rw [ups_cons, downs_cons]
        omega
    · intro enough
      obtain ⟨next, first⟩ := exists_moves (enough [name] ⟨names, rfl⟩)
      have step := first.length
      have enoughLeft : ∀ front, front <+: names → ups front ≤ next.length + downs front := by
        intro front begins
        have whole := enough (name :: front) (List.prefix_cons_iff.2 (.inr ⟨front, rfl, begins⟩))
        rw [ups_cons, downs_cons] at whole
        omega
      obtain ⟨last, others⟩ := ih.2 enoughLeft
      exact ⟨last, .move first others⟩

end Walking

/-- A step of the walk that keeps the names in reverse is a move. -/
theorem walkStep_eq_some_iff {walked walked' : List String} {name : String} :
    walkStep walked name = some walked' ↔ Moves walked.reverse name walked'.reverse := by
  rw [moves_iff, List.reverse_inj]
  unfold walkStep
  split
  · next stays =>
    have notUp : name ≠ ".." := by rcases stays with rfl | rfl <;> decide
    have unnamed : ¬ IsName name := fun named => stays.elim named.1 named.2.1
    simp [stays, notUp, unnamed, eq_comm]
  · next moves =>
    split
    · next goesUp =>
      subst goesUp
      cases walked with
      | nil => simp [IsName]
      | cons top before =>
        have back : (∃ last, (top :: before).reverse = walked'.reverse ++ [last]) ↔ before = walked' := by
          constructor
          · rintro ⟨last, same⟩
            rw [← List.reverse_cons, List.reverse_inj] at same
            exact (List.cons.inj same).2
          · rintro rfl
            exact ⟨top, List.reverse_cons⟩
        rw [back]
        simp [IsName]
    · next goesDown =>
      rw [not_or] at moves
      have named : IsName name := ⟨moves.1, moves.2, goesDown⟩
      have reversed : walked'.reverse = walked.reverse ++ [name] ↔ walked' = name :: walked := by
        rw [← List.reverse_cons, List.reverse_inj]
      simp [moves, goesDown, named, reversed, eq_comm]

theorem foldlM_walkStep_iff {walked walked' names : List String} :
    names.foldlM walkStep walked = some walked' ↔ Walks walked.reverse names walked'.reverse := by
  induction names generalizing walked with
  | nil =>
    rw [walks_nil_iff, List.reverse_inj]
    exact Option.some_inj.trans eq_comm
  | cons name names ih =>
    rw [List.foldlM_cons, walks_cons_iff]
    simp only [Option.bind_eq_bind, Option.bind_eq_some_iff, walkStep_eq_some_iff, ih]
    constructor
    · rintro ⟨next, first, others⟩
      exact ⟨_, first, others⟩
    · rintro ⟨next, first, others⟩
      exact ⟨next.reverse, by rwa [List.reverse_reverse], by rwa [List.reverse_reverse]⟩

theorem walk_eq_some_iff {walked names : List String} :
    walk names = some walked ↔ Walks [] names walked.reverse :=
  foldlM_walkStep_iff

/-- A path without the white space around it. -/
def trimmed (path : String) : String := String.ofList (strip path.toList)

/-- A path is a destination if it is relative and its walk ends below its start, and then it is where the walk
ends. -/
theorem destination_eq_ok_iff {path : String} {names : List String} :
    destination path = .ok names ↔ trimmed path ≠ "" ∧ isAbsolute (trimmed path) = false ∧
      Walks [] (parts (trimmed path)) names ∧ names ≠ [] := by
  have ends (walked : List String) (walk : walk (parts (trimmed path)) = some walked) :
      Walks [] (parts (trimmed path)) names ↔ names = walked.reverse := by
    have reversed : Walks [] (parts (trimmed path)) names ↔
        Report.walk (parts (trimmed path)) = some names.reverse := by
      rw [walk_eq_some_iff, List.reverse_reverse]
    rw [reversed, walk, Option.some_inj, ← List.reverse_inj, List.reverse_reverse, eq_comm]
  unfold destination
  dsimp only
  rw [← trimmed]
  split
  · next empty => simp [empty]
  · next filled =>
    split
    · next absolute => simp [absolute]
    · next relative =>
      split
      · next none =>
        have nowhere : ¬ Walks [] (parts (trimmed path)) names := by
          intro walks
          rw [← List.reverse_reverse names, ← walk_eq_some_iff, none] at walks
          cases walks
        simp [nowhere]
      · next walk => simp [ends [] walk]
      · next walked filledWalk walk =>
        rw [ends walked walk]
        have some : names = walked.reverse → names ≠ [] := by
          rintro rfl
          simpa using filledWalk
        simp [filled, relative, eq_comm, and_iff_left_of_imp some]

theorem exists_destination_iff {path : String} :
    (∃ names, destination path = .ok names) ↔ trimmed path ≠ "" ∧ isAbsolute (trimmed path) = false ∧
      (∀ front, front <+: parts (trimmed path) → ups front ≤ downs front) ∧
        ups (parts (trimmed path)) < downs (parts (trimmed path)) := by
  have possible : (∃ last, Walks [] (parts (trimmed path)) last) ↔
      ∀ front, front <+: parts (trimmed path) → ups front ≤ downs front := by
    have fromStart := @exists_walks_iff [] (parts (trimmed path))
    simpa only [List.length_nil, Nat.zero_add] using fromStart
  simp only [destination_eq_ok_iff, exists_and_left, ← possible]
  refine and_congr_right fun _ => and_congr_right fun _ => ?_
  constructor
  · rintro ⟨names, walk, filled⟩
    have length := walk.length
    have positive := List.length_pos_iff.2 filled
    refine ⟨⟨names, walk⟩, ?_⟩
    rw [List.length_nil] at length
    omega
  · rintro ⟨⟨names, walk⟩, more⟩
    have length := walk.length
    refine ⟨names, walk, ?_⟩
    rintro rfl
    omega

/-- The names lead from any directory to a place below it, as the path does by which they were given: the path of
the names is relative and made of them alone, and none of them is empty or dots. -/
structure LeadsBelow (path : String) (names : List String) : Prop where
  filled : names ≠ []
  named : ∀ name ∈ names, IsName name
  parts_eq : parts (ofParts names) = names
  relative : isAbsolute (ofParts names) = false
  below : ∀ directory base, Walks [] (parts directory) base →
    Walks [] (parts (join directory (ofParts names))) (base ++ names) ∧
      Walks [] (parts (join directory (trimmed path))) (base ++ names)

theorem LeadsBelow.areNames {path : String} {names : List String} (below : LeadsBelow path names) :
    AreNames names := by
  intro name mem
  refine ⟨below.named name mem, ?_⟩
  rw [← below.parts_eq] at mem
  exact slash_not_mem mem

theorem leadsBelow_of_destination {path : String} {names : List String}
    (accepted : destination path = .ok names) : LeadsBelow path names := by
  obtain ⟨-, relative, walk, filled⟩ := destination_eq_ok_iff.1 accepted
  have taken : ∀ name ∈ names, name ∈ parts (trimmed path) ∧ IsName name := fun name mem =>
    (walk.named name mem).resolve_left List.not_mem_nil
  have named : AreNames names := fun name mem => ⟨(taken name mem).2, slash_not_mem (taken name mem).1⟩
  have parts_eq : parts (ofParts names) = names := parts_ofParts filled fun name mem => (named name mem).2
  refine ⟨filled, fun name mem => (named name mem).1, parts_eq, isAbsolute_ofParts named,
    fun directory base reached => ⟨?_, ?_⟩⟩
  · apply reached.join (isAbsolute_ofParts named)
    rw [parts_eq]
    exact walks_of_names base fun name mem => (named name mem).1
  · have fromBase := walk.beneath base
    rw [List.append_nil] at fromBase
    exact reached.join relative fromBase

/-- The file of a report is written at the names, joined to the path of the working directory, and this path is told
if it could be. -/
theorem save_of_destination {m : Type → Type} [Monad m] [Host m] {path : String} {names : List String}
    (accepted : destination path = .ok names) (r : Report) :
    ∃ told : String → Except Files.FileError Unit → m (Except AuditError String),
      r.save path = (do
        match ← (Host.workingDirectory : m (Except Files.FileError String)) with
        | .error e => return .error (.output ("determine working directory: " ++ e.message))
        | .ok directory =>
          told directory (← Host.writeFile (join directory (ofParts names)) fileMode r.encode)) ∧
        ∀ directory, told directory (.ok ()) = pure (.ok (join directory (ofParts names))) := by
  unfold save
  rw [accepted]
  exact ⟨_, rfl, fun directory => rfl⟩

/-- A path is a destination exactly if the text without the white space around it is not empty and does not begin
with a slash, and the walk through its names goes nowhere above its start and ends below it. The destination is where
the walk ends, so it lies below every working directory, and there the report is written if there is a working
directory. Every other path is an output error, and nothing is asked of the host. -/
theorem destination_exact (path : String) :
    (∀ names, destination path = .ok names ↔ trimmed path ≠ "" ∧ isAbsolute (trimmed path) = false ∧
      Walks [] (parts (trimmed path)) names ∧ names ≠ []) ∧
    ((∃ names, destination path = .ok names) ↔ trimmed path ≠ "" ∧ isAbsolute (trimmed path) = false ∧
      (∀ front, front <+: parts (trimmed path) → ups front ≤ downs front) ∧
        ups (parts (trimmed path)) < downs (parts (trimmed path))) ∧
    (∀ names, destination path = .ok names → LeadsBelow path names ∧
      ∀ {m : Type → Type} [Monad m] [Host m] (r : Report),
        ∃ told : String → Except Files.FileError Unit → m (Except AuditError String),
          r.save path = (do
            match ← (Host.workingDirectory : m (Except Files.FileError String)) with
            | .error e => return .error (.output ("determine working directory: " ++ e.message))
            | .ok directory =>
              told directory (← Host.writeFile (join directory (ofParts names)) fileMode r.encode)) ∧
            ∀ directory, told directory (.ok ()) = pure (.ok (join directory (ofParts names)))) ∧
    ∀ fault, destination path = .error fault → ∀ {m : Type → Type} [Monad m] [Host m] (r : Report),
      r.save path = (pure (.error (.output fault.message)) : m (Except AuditError String)) := by
  refine ⟨fun names => destination_eq_ok_iff, exists_destination_iff,
    fun names accepted => ⟨leadsBelow_of_destination accepted, fun r => save_of_destination accepted r⟩,
    fun fault refused m _ _ r => ?_⟩
  rw [save, refused]

/-- The walk may come back to where it started, but not end there. -/
example : destination " ./a//../b/./c/.. " = .ok ["b"] ∧
    destination "a/.." = .error (.nameless "a/..") ∧
    destination "a/../../a/b" = .error (.escapes "a/../../a/b") := by
  refine ⟨?_, ?_, ?_⟩ <;> rfl

end Report

end InboxAudit
