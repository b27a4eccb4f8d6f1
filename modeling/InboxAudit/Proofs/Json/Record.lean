import InboxAudit.Json.Record

/-!
# Records read back

An object that has its declared keys in their order, each once, holds the declared fields
(`fields?_object`), and a list of items that are read back is read back (`list?_map`).
-/

namespace InboxAudit.Json
set_option autoImplicit false

variable {α β : Type}

theorem mapM_eq_some_map {f : α → Option β} {g : α → β} {l : List α}
    (each : ∀ a ∈ l, f a = some (g a)) : l.mapM f = some (l.map g) := by
  induction l with
  | nil => rfl
  | cons a rest ih =>
    obtain ⟨first, tail⟩ := List.forall_mem_cons.1 each
    simp [first, ih tail]

theorem single?_of_mem {members : List (String × Json)} (distinct : (members.map Prod.fst).Nodup)
    {m : String × Json} (mem : m ∈ members) : single? members m.1 = some (some m.2) := by
  have alone : members.filter (·.1 = m.1) = [m] := by
    induction members with
    | nil => cases mem
    | cons first rest ih =>
      rw [List.map_cons, List.nodup_cons] at distinct
      obtain ⟨new, distinct⟩ := distinct
      rcases List.mem_cons.1 mem with rfl | mem
      · have others : rest.filter (·.1 = m.1) = [] := by
          rw [List.filter_eq_nil_iff]
          intro other mem same
          exact new (List.mem_map.2 ⟨other, mem, of_decide_eq_true same⟩)
        simp [others]
      · have other : first.1 ≠ m.1 := fun same => new (List.mem_map.2 ⟨m, mem, same.symm⟩)
        simp [other, ih distinct mem]
  rw [single?, alone]

/-- The fields of an object whose keys are the declared ones. -/
theorem fields?_object {names : List String} {members : List (String × Json)}
    (keys : members.map Prod.fst = names) (distinct : names.Nodup) :
    fields? names (.object members) = some (members.map fun m => some m.2) := by
  subst keys
  rw [fields?, List.mapM_map]
  exact mapM_eq_some_map fun m mem => single?_of_mem distinct mem

theorem field_some (read : Json → Option α) (v : Json) : field read (some v) = read v := by
  rw [field]

theorem list?_map {read : Json → Option α} {write : α → Json} {l : List α}
    (each : ∀ a ∈ l, read (write a) = some a) : list? read (.array (l.map write)) = some l := by
  rw [list?, List.mapM_map, mapM_eq_some_map (f := read ∘ write) (g := id) each, List.map_id]

theorem list?_texts (items : List String) : list? text? (texts items) = some items :=
  list?_map fun _ _ => rfl

theorem natBelow?_nat {limit n : Nat} (small : n < limit) : natBelow? limit (nat n) = some n := by
  have bounds : 0 ≤ (n : Int) ∧ (n : Int) < limit := ⟨by omega, by omega⟩
  rw [nat, natBelow?, if_pos bounds, Int.toNat_natCast]

theorem nat32?_nat {n : Nat} (small : n < Numbers.bound 32) : nat32? (nat n) = some n :=
  natBelow?_nat small

theorem nat64?_nat {n : Nat} (small : n < Numbers.bound 64) : nat64? (nat n) = some n :=
  natBelow?_nat small

end InboxAudit.Json
