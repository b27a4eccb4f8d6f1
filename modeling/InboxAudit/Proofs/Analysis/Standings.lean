import InboxAudit.Analysis.Ranking
import InboxAudit.Proofs.Analysis.FirstSeen
import Mathlib.Data.List.Induction

/-!
# What a ranking shows

The tallies of a sample hold, for each key that is not empty, how many messages have it and the first subject among
them that is not empty (`tallies_eq`): one more message changes the tally of its own key and no other
(`tally_concat`). No two rows have one key, so the order of the rows is strict, and the whole ranking is known by
what it lists (`IsRanking.eq`). The table is cut off it, whatever order the tallies came in (`isTop_ranking`).
-/

namespace InboxAudit
set_option autoImplicit false

namespace Table

variable {α : Type}

/-- A table is known by its keys and what a look-up finds under them. -/
theorem eq_map_keys (missing : α) {table : Table α} (unique : table.keys.Nodup) :
    table = table.keys.map fun key => (key, (table.get? key).getD missing) := by
  induction table with
  | nil => rfl
  | cons entry rest ih =>
    obtain ⟨key, value⟩ := entry
    obtain ⟨new, unique⟩ := List.nodup_cons.1 unique
    have later : ∀ k ∈ keys rest, (k, (get? ((key, value) :: rest) k).getD missing) =
        (k, (get? rest k).getD missing) := by
      intro k mem
      have other : key ≠ k := fun same => new (same ▸ mem)
      rw [get?_cons, if_neg other]
    have split : keys ((key, value) :: rest) = key :: keys rest := rfl
    rw [split, List.map_cons, get?_cons, if_pos rfl, List.map_congr_left later, ← ih unique,
      Option.getD_some]

end Table

namespace Analysis

open Mail (Message)

section Tallies

variable (key : Message → String)

/-- The first text that is not empty, if there is one. -/
def firstFilled (texts : List String) : String := (texts.find? (· ≠ "")).getD ""

/-- The messages of the sample that have a key, counted, and the first subject among them that is not empty. -/
def tally (sample : List Message) (k : String) : Tally :=
  let group := sample.filter (key · = k)
  ⟨group.length, firstFilled (group.map (·.header "Subject"))⟩

/-- The keys of the sample that are not empty, message by message. -/
def filledKeys (sample : List Message) : List String := (sample.map key).filter (· ≠ "")

variable {key}

theorem mem_filledKeys {sample : List Message} {k : String} :
    k ∈ filledKeys key sample ↔ k ≠ "" ∧ ∃ m ∈ sample, key m = k := by
  simp [filledKeys, and_comm]

theorem firstFilled_concat (texts : List String) (text : String) :
    firstFilled (texts ++ [text]) = if firstFilled texts = "" then text else firstFilled texts := by
  rw [firstFilled, firstFilled, List.find?_append]
  cases found : texts.find? (· ≠ "") with
  | none => by_cases empty : text = "" <;> simp [empty]
  | some first =>
    have filled : first ≠ "" := by simpa using List.find?_some found
    simp [filled]

/-- One more message is added to the tally of its key, and to no other. -/
theorem tally_concat (sample : List Message) (m : Message) (k : String) :
    tally key (sample ++ [m]) k =
      if key m = k then (tally key sample k).add (m.header "Subject") else tally key sample k := by
  by_cases same : key m = k
  · have group : (sample ++ [m]).filter (key · = k) = sample.filter (key · = k) ++ [m] := by
      rw [List.filter_append, List.filter_cons_of_pos (by simpa using same), List.filter_nil]
    rw [if_pos same, tally, group, List.map_append, List.map_singleton, firstFilled_concat,
      List.length_append, List.length_singleton, Tally.add, tally]
  · have group : (sample ++ [m]).filter (key · = k) = sample.filter (key · = k) := by
      rw [List.filter_append, List.filter_cons_of_neg (by simpa using same), List.filter_nil,
        List.append_nil]
    rw [if_neg same, tally, group, tally]

theorem tallies_concat (sample : List Message) (m : Message) :
    tallies key (sample ++ [m]) =
      if key m = "" then tallies key sample
      else (tallies key sample).put (key m)
        ((((tallies key sample).get? (key m)).getD ⟨0, ""⟩).add (m.header "Subject")) := by
  rw [tallies, List.foldl_append, List.foldl_cons, List.foldl_nil]
  rfl

theorem keys_tallies (sample : List Message) :
    (tallies key sample).keys = firstSeen (filledKeys key sample) := by
  induction sample using List.reverseRecOn with
  | nil => rfl
  | append_singleton sample m ih =>
    rw [tallies_concat, filledKeys, List.map_append, List.filter_append, ← filledKeys]
    split
    · next empty => simp [empty, ih]
    · next filled =>
      rw [Table.keys_put, ih]
      simp [filled, firstSeen_concat, seenWith]

theorem getD_tallies (sample : List Message) {k : String} (filled : k ≠ "") :
    ((tallies key sample).get? k).getD ⟨0, ""⟩ = tally key sample k := by
  -- The table grows by the last message, so the induction is on the sample from its end.
  induction sample using List.reverseRecOn generalizing k with
  | nil => rfl
  | append_singleton sample m ih =>
    rw [tallies_concat, tally_concat]
    split
    · next empty =>
      have other : key m ≠ k := fun same => filled (same.symm.trans empty)
      rw [if_neg other, ih filled]
    · next filledKey =>
      rw [Table.get?_put]
      split
      · next same => rw [Option.getD_some, ih filledKey, same]
      · exact ih filled

/-- The tallies are those of the keys that are not empty, in the order in which the keys first come. -/
theorem tallies_eq (sample : List Message) :
    tallies key sample = (firstSeen (filledKeys key sample)).map fun k => (k, tally key sample k) := by
  have unique : (tallies key sample).keys.Nodup := by
    rw [keys_tallies]
    exact nodup_firstSeen _
  rw [Table.eq_map_keys ⟨0, ""⟩ unique, keys_tallies]
  apply List.map_congr_left
  intro k mem
  rw [getD_tallies sample (mem_filledKeys.1 (mem_firstSeen.1 mem)).1]

end Tallies

/-- One row stands before another: it counts more messages, or as many under a lesser key. -/
def Standing.Outranks (a b : Standing) : Prop :=
  b.count < a.count ∨ a.count = b.count ∧ a.key < b.key

theorem Standing.before_iff {a b : Standing} :
    a.before b = true ↔ b.count < a.count ∨ a.count = b.count ∧ a.key ≤ b.key := by
  simp [before]

theorem Standing.before_trans (a b c : Standing) (ab : a.before b = true) (bc : b.before c = true) :
    a.before c = true := by
  rw [before_iff] at ab bc ⊢
  rcases ab with more | ⟨same, le⟩
  · left
    omega
  · rcases bc with more' | ⟨same', le'⟩
    · left
      omega
    · exact .inr ⟨same.trans same', String.le_trans le le'⟩

theorem Standing.before_total (a b : Standing) : (a.before b || b.before a) = true := by
  rw [Bool.or_eq_true, before_iff, before_iff]
  rcases Nat.lt_trichotomy a.count b.count with less | same | more
  · exact .inr (.inl less)
  · rcases String.le_total a.key b.key with le | le
    · exact .inl (.inr ⟨same, le⟩)
    · exact .inr (.inr ⟨same.symm, le⟩)
  · exact .inl (.inl more)

theorem Standing.Outranks.asymm {a b : Standing} (ab : a.Outranks b) : ¬ b.Outranks a := by
  rintro (more | ⟨same, less⟩)
  · rcases ab with more' | ⟨same', -⟩ <;> omega
  · rcases ab with more' | ⟨-, less'⟩
    · omega
    · exact String.lt_asymm less less'

/-- A row that may stand before another one of a different key outranks it. -/
theorem Standing.outranks_of_before {a b : Standing} (h : a.before b = true) (apart : a.key ≠ b.key) :
    a.Outranks b := by
  refine (before_iff.1 h).imp_right fun ⟨same, le⟩ => ⟨same, ?_⟩
  exact String.not_le.1 fun ge => apart (String.le_antisymm le ge)

/-- The row of a key: how many messages of the sample have it, and the first subject among them that is not
empty. -/
def standing (key : Message → String) (sample : List Message) (k : String) : Standing :=
  ⟨k, (tally key sample k).count, (tally key sample k).preview⟩

/-- The rows of all keys of the sample that are not empty, each before those that it outranks. -/
structure IsRanking (key : Message → String) (sample : List Message) (rows : List Standing) : Prop where
  exact : ∀ row, row ∈ rows ↔
    row.key ≠ "" ∧ (∃ m ∈ sample, key m = row.key) ∧ row = standing key sample row.key
  ordered : rows.Pairwise Standing.Outranks

/-- The row of a tally. -/
def Standing.ofEntry (entry : String × Tally) : Standing := ⟨entry.1, entry.2.count, entry.2.preview⟩

/-- The rows of some tallies in order. -/
def ranked (entries : Table Tally) : List Standing :=
  (entries.map Standing.ofEntry).mergeSort Standing.before

theorem ranking_eq_take (key : Message → String) (top : Nat) (sample : List Message) :
    ranking key top sample = (ranked (tallies key sample)).take top := rfl

section Ranked

variable {key : Message → String} {sample : List Message} {rows rows' : List Standing}

/-- There is one ranking of a sample. -/
theorem IsRanking.eq (h : IsRanking key sample rows) (h' : IsRanking key sample rows') : rows = rows' := by
  have nodup {rows : List Standing} (h : IsRanking key sample rows) : rows.Nodup :=
    h.ordered.imp fun outranks => by
      rintro rfl
      exact outranks.asymm outranks
  have perm : rows.Perm rows' := by
    rw [List.perm_ext_iff_of_nodup (nodup h) (nodup h')]
    exact fun row => (h.exact row).trans (h'.exact row).symm
  apply perm.eq_of_pairwise _ h.ordered h'.ordered
  intro a b _ _ ab ba
  exact absurd ba ab.asymm

theorem IsRanking.nodup_keys (h : IsRanking key sample rows) : (rows.map (·.key)).Nodup := by
  rw [List.Nodup, List.pairwise_map]
  apply h.ordered.imp_of_mem
  intro a b memA memB outranks same
  have equal : a = b := by
    rw [((h.exact a).1 memA).2.2, ((h.exact b).1 memB).2.2, same]
  exact outranks.asymm (equal ▸ outranks)

/-- Tallies that come in any order make the ranking. -/
theorem isRanking_ranked {entries : Table Tally} (perm : entries.Perm (tallies key sample)) :
    IsRanking key sample (ranked entries) := by
  have listed : (ranked entries).Perm ((firstSeen (filledKeys key sample)).map (standing key sample)) := by
    have rows : (entries.map Standing.ofEntry).Perm _ := perm.map Standing.ofEntry
    rw [tallies_eq, List.map_map] at rows
    exact (List.mergeSort_perm _ _).trans rows
  have unique : ((ranked entries).map (·.key)).Nodup := by
    have same : (·.key) ∘ standing key sample = id := rfl
    rw [(listed.map (·.key)).nodup_iff, List.map_map, same, List.map_id]
    exact nodup_firstSeen _
  constructor
  · intro row
    rw [listed.mem_iff, List.mem_map]
    constructor
    · rintro ⟨k, mem, rfl⟩
      obtain ⟨filled, keyed⟩ := mem_filledKeys.1 (mem_firstSeen.1 mem)
      exact ⟨filled, keyed, rfl⟩
    · rintro ⟨filled, keyed, same⟩
      exact ⟨row.key, mem_firstSeen.2 (mem_filledKeys.2 ⟨filled, keyed⟩), same.symm⟩
  · have before : (ranked entries).Pairwise fun a b => a.before b = true :=
      List.pairwise_mergeSort Standing.before_trans Standing.before_total _
    have apart : (ranked entries).Pairwise fun a b => a.key ≠ b.key := List.pairwise_map.1 unique
    exact (before.and apart).imp fun ⟨le, apart⟩ => Standing.outranks_of_before le apart

/-- A row that is cut off is outranked by every row that is not. -/
theorem IsRanking.outranks_of_not_mem_take (h : IsRanking key sample rows) {top : Nat} {m : Message}
    (mem : m ∈ sample) (filled : key m ≠ "") (omitted : key m ∉ (rows.take top).map (·.key)) :
    ∀ row ∈ rows.take top, row.Outranks (standing key sample (key m)) := by
  have listed : standing key sample (key m) ∈ rows.take top ++ rows.drop top := by
    rw [List.take_append_drop]
    exact (h.exact _).2 ⟨filled, ⟨m, mem, rfl⟩, rfl⟩
  have dropped : standing key sample (key m) ∈ rows.drop top :=
    (List.mem_append.1 listed).resolve_left fun kept => omitted (List.mem_map_of_mem kept)
  have ordered := h.ordered
  rw [← List.take_append_drop top rows] at ordered
  exact fun row kept => (List.pairwise_append.1 ordered).2.2 row kept _ dropped

end Ranked

/-- The rows are the first `top` rows of the ranking of the sample. -/
structure IsTop (key : Message → String) (top : Nat) (sample : List Message) (rows : List Standing) : Prop where
  cut : ∃ all, IsRanking key sample all ∧ (∀ all', IsRanking key sample all' → all' = all) ∧
    rows = all.take top
  distinct : (rows.map (·.key)).Nodup
  /-- A key that is left out is outranked by every row. -/
  outranked : ∀ m ∈ sample, key m ≠ "" → key m ∉ rows.map (·.key) →
    ∀ row ∈ rows, row.Outranks (standing key sample (key m))
  /-- The order in which the tallies come makes no difference. -/
  anyOrder : ∀ entries : Table Tally, entries.Perm (tallies key sample) → (ranked entries).take top = rows

theorem isTop_ranking (key : Message → String) (top : Nat) (sample : List Message) :
    IsTop key top sample (ranking key top sample) := by
  have all : IsRanking key sample (ranked (tallies key sample)) := isRanking_ranked (List.Perm.refl _)
  rw [ranking_eq_take]
  constructor
  · exact ⟨_, all, fun _ other => other.eq all, rfl⟩
  · rw [List.map_take]
    exact all.nodup_keys.sublist (List.take_sublist _ _)
  · exact fun m mem filled omitted => all.outranks_of_not_mem_take mem filled omitted
  · intro entries perm
    rw [(isRanking_ranked perm).eq all]

/-- The tables of a report show the first rows of the rankings of the sample by sender domain and by list. -/
theorem topRows_exact (top : Nat) (sample : List Message) :
    IsTop messageDomain top sample (topSenders top sample) ∧
      IsTop messageList top sample (topLists top sample) :=
  ⟨isTop_ranking messageDomain top sample, isTop_ranking messageList top sample⟩

end Analysis

end InboxAudit
