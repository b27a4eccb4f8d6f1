import InboxAudit.Mail.Message
import InboxAudit.Proofs.Text.LetterCase
import Mathlib.Data.List.Nodup

/-!
# Header look-ups

Headers have no order of their own: that of the list is the order in which they happen to be gone through. A look-up
reads one of the headers of exactly this name or, where there are none, of the name in any case (`header_cases`), and
another order can make it read each of them (`exists_perm_header_eq`). So the order does not show exactly where they
agree (`forall_perm_header_iff`), as they do if no two names differ in the case of ASCII letters alone
(`agreesOn_of_nodup`).
-/

namespace InboxAudit.Mail
set_option autoImplicit false

open InboxAudit.Text (foldCase sameAsciiCase sameAsciiCase_iff)

namespace Message

variable {R : String → String → Prop} {m m' : Message} {name : String} {h : String × String}

/-- The headers that a look-up of the name may read: those of exactly this name or, where there are none, of the name
in any case. -/
def entriesOf (m : Message) (name : String) : List (String × String) :=
  if m.headers.any (·.1 = name) then m.headers.filter (·.1 = name)
  else m.headers.filter fun h => sameAsciiCase h.1.toList name.toList

theorem mem_entriesOf : h ∈ m.entriesOf name ↔ h ∈ m.headers ∧
    (h.1 = name ∨ (∀ k ∈ m.headers, k.1 ≠ name) ∧ sameAsciiCase h.1.toList name.toList = true) := by
  unfold entriesOf
  split
  · next found =>
    obtain ⟨k, mem, same⟩ := List.any_eq_true.1 found
    have notAll : ¬ ∀ k ∈ m.headers, k.1 ≠ name := fun all => all k mem (of_decide_eq_true same)
    simp only [List.mem_filter, decide_eq_true_eq, notAll, false_and, or_false]
  · next none =>
    have all : ∀ k ∈ m.headers, k.1 ≠ name := fun k mem same =>
      none (List.any_eq_true.2 ⟨k, mem, decide_eq_true same⟩)
    rw [List.mem_filter]
    refine and_congr_right fun mem => ?_
    rw [or_iff_right (all h mem), and_iff_right all]

/-- The first of them is read, and the empty text where there are none. -/
theorem header_eq (m : Message) (name : String) :
    m.header name = ((m.entriesOf name).head?.map (·.2)).getD "" := by
  unfold header entriesOf Table.get?
  by_cases found : m.headers.any (·.1 = name) = true
  · rw [if_pos found, List.head?_filter]
    obtain ⟨h, first⟩ := Option.isSome_iff_exists.1 ((List.find?_isSome).2 (List.any_eq_true.1 found))
    rw [first]
    rfl
  · have none : m.headers.find? (·.1 = name) = none :=
      List.find?_eq_none.2 fun k mem same => found (List.any_eq_true.2 ⟨k, mem, same⟩)
    rw [if_neg found, none, List.head?_filter]
    dsimp only [Option.map_none]
    cases m.headers.find? fun h => sameAsciiCase h.1.toList name.toList <;> rfl

theorem header_cases (m : Message) (name : String) :
    (∃ h ∈ m.entriesOf name, m.header name = h.2) ∨ m.entriesOf name = [] ∧ m.header name = "" := by
  rw [header_eq]
  cases m.entriesOf name with
  | nil => exact .inr ⟨rfl, rfl⟩
  | cons h rest => exact .inl ⟨h, List.mem_cons_self, rfl⟩

/-- Look-ups in two messages are related if all headers are that they may read. -/
theorem header_rel (empty : R "" "") (both : m.entriesOf name = [] ↔ m'.entriesOf name = [])
    (related : ∀ h ∈ m.entriesOf name, ∀ h' ∈ m'.entriesOf name, R h.2 h'.2) :
    R (m.header name) (m'.header name) := by
  rcases header_cases m name with ⟨h, mem, read⟩ | ⟨none, read⟩ <;>
    rcases header_cases m' name with ⟨h', mem', read'⟩ | ⟨none', read'⟩
  · rw [read, read']
    exact related h mem h' mem'
  · rw [both.2 none'] at mem
    cases mem
  · rw [both.1 none] at mem'
    cases mem'
  · rw [read, read']
    exact empty

/-- All headers agree that a look-up of the name may read. -/
def AgreesOn (R : String → String → Prop) (m : Message) (name : String) : Prop :=
  ∀ h ∈ m.entriesOf name, ∀ h' ∈ m.entriesOf name, R h.2 h'.2

instance [∀ a b, Decidable (R a b)] : Decidable (m.AgreesOn R name) :=
  inferInstanceAs (Decidable (∀ h ∈ _, ∀ h' ∈ _, _))

/-- They do if no two names are the same but for the case of ASCII letters. -/
theorem agreesOn_of_nodup (refl : ∀ s, R s s) (distinct : (m.headers.map fun h => foldCase h.1.toList).Nodup)
    (name : String) : m.AgreesOn R name := by
  have named {h : String × String} (mem : h ∈ m.entriesOf name) :
      h ∈ m.headers ∧ foldCase h.1.toList = foldCase name.toList := by
    obtain ⟨listed, rfl | ⟨-, same⟩⟩ := mem_entriesOf.1 mem
    · exact ⟨listed, rfl⟩
    · exact ⟨listed, sameAsciiCase_iff.1 same⟩
  intro h mem h' mem'
  have one : h = h' :=
    List.inj_on_of_nodup_map distinct (named mem).1 (named mem').1 ((named mem).2.trans (named mem').2.symm)
  rw [one]
  exact refl h'.2

/-- Which headers a look-up may read does not depend on their order. -/
theorem exists_entriesOf_eq (m : Message) (name : String) : ∃ p : String × String → Bool,
    ∀ m' : Message, m'.headers.Perm m.headers → m'.entriesOf name = m'.headers.filter p := by
  by_cases found : m.headers.any (·.1 = name) = true
  · refine ⟨(·.1 = name), fun m' order => ?_⟩
    rw [entriesOf, order.any_eq, if_pos found]
  · refine ⟨fun h => sameAsciiCase h.1.toList name.toList, fun m' order => ?_⟩
    rw [entriesOf, order.any_eq, if_neg found]

theorem mem_entriesOf_of_perm (order : m'.headers.Perm m.headers) :
    h ∈ m'.entriesOf name ↔ h ∈ m.entriesOf name := by
  simp only [mem_entriesOf, order.mem_iff]

/-- Every header that a look-up may read is read in some order. -/
theorem exists_perm_header_eq (mem : h ∈ m.entriesOf name) :
    ∃ m' : Message, m'.headers.Perm m.headers ∧ m'.header name = h.2 := by
  obtain ⟨p, entries⟩ := exists_entriesOf_eq m name
  rw [entries m (List.Perm.refl _)] at mem
  obtain ⟨listed, pass⟩ := List.mem_filter.1 mem
  let m' : Message := { m with headers := h :: List.erase m.headers h }
  have order : m'.headers.Perm m.headers := (List.perm_cons_erase listed).symm
  refine ⟨m', order, ?_⟩
  rw [header_eq, entries m' order, List.filter_cons_of_pos pass]
  rfl

/-- The order of the headers does not show in a look-up exactly if all headers agree that it may read. -/
theorem forall_perm_header_iff (empty : R "" "") :
    (∀ a b : Message, a.headers.Perm m.headers → b.headers.Perm m.headers → R (a.header name) (b.header name)) ↔
      m.AgreesOn R name := by
  constructor
  · intro unseen h mem h' mem'
    obtain ⟨a, order, read⟩ := exists_perm_header_eq mem
    obtain ⟨b, order', read'⟩ := exists_perm_header_eq mem'
    rw [← read, ← read']
    exact unseen a b order order'
  · intro agrees a b order order'
    refine header_rel empty ?_ fun h mem h' mem' =>
      agrees h ((mem_entriesOf_of_perm order).1 mem) h' ((mem_entriesOf_of_perm order').1 mem')
    simp only [List.eq_nil_iff_forall_not_mem, mem_entriesOf_of_perm order, mem_entriesOf_of_perm order']

end Message

end InboxAudit.Mail
