import InboxAudit.Mail.Domain
import InboxAudit.Proofs.Text.LowerCase
import InboxAudit.Proofs.Text.Parts

/-!
# Where the characters of a domain come from

The reader of address lists makes up no character: what it collects stands in the header
(`State.holds_of_step` for one character, `mem_of_mem_parse` for the whole header). A domain is
therefore in lower case, and an ASCII character of it that is no letter stands in the header
(`isLower_of_mem_domainOf`, `mem_of_mem_domainOf`).
-/

namespace InboxAudit.Mail.AddressList
set_option autoImplicit false

/-- The text under way at a place. -/
def Place.text : Place → List Char
  | .bracket address | .bare address | .bareComment address => address
  | _ => []

/-- The reader holds a character, in the text under way or in a finished address. -/
def State.Holds (s : State) (d : Char) : Prop :=
  d ∈ s.place.text ∨ ∃ address ∈ s.found, d ∈ address

variable {s s' : State} {c d : Char}

theorem mem_of_mem_trimBare {address : List Char} (h : d ∈ trimBare address) : d ∈ address :=
  (List.dropWhile_suffix _).mem h

/-- An address that is done is what was under way; then the reader stands where no text is. -/
theorem State.holds_of_finish {address : List Char} {leave : State → State}
    (h : (s.finish address).map leave = some s') (empty : ∀ t, (leave t).place.text = [])
    (keeps : ∀ t, (leave t).found = t.found) (within : d ∈ address → d ∈ s.place.text)
    (holds : s'.Holds d) : s.Holds d := by
  obtain ⟨ended, finish, rfl⟩ := Option.map_eq_some_iff.1 h
  unfold State.finish at finish
  split at finish
  · cases finish
    rw [State.Holds, empty, keeps] at holds
    obtain ⟨a, mem, holds⟩ := holds.resolve_left List.not_mem_nil
    rcases List.mem_cons.1 mem with rfl | mem
    · exact .inl (within (List.mem_reverse.1 holds))
    · exact .inr ⟨a, mem, holds⟩
  · cases finish

theorem State.holds_of_colon (h : s.colon = some s') (holds : s'.Holds d) : s.Holds d := by
  unfold colon at h
  split at h
  · cases h
  · cases h
    exact .inr (holds.resolve_left List.not_mem_nil)

theorem State.holds_of_begin (h : s.begin c = some s') (holds : s'.Holds d) :
    s.Holds d ∨ d = c := by
  unfold begin at h
  grind [State.Holds, State.at, State.semicolon, Place.text]

/-- One character adds at most itself to what the reader holds. -/
theorem State.holds_of_step (h : step s c = some s') (holds : s'.Holds d) : s.Holds d ∨ d = c := by
  obtain ⟨place, inGroup, found⟩ := s
  cases place with
  | start => exact State.holds_of_begin h holds
  | groupStart => exact State.holds_of_begin h holds
  | quoted | escaped | named | closed | closedComment | bareComment =>
    grind [step, State.holds_of_colon, State.Holds, State.at, State.semicolon, Place.text]
  | bracket address =>
    simp only [step] at h
    split at h
    · exact .inl (State.holds_of_finish h (fun _ => rfl) (fun _ => rfl) id holds)
    · grind [State.Holds, State.at, Place.text]
  | bare address =>
    simp only [step] at h
    split at h
    · grind [State.Holds, State.at, Place.text]
    split at h
    · exact .inl (State.holds_of_finish h (fun _ => rfl) (fun _ => rfl) mem_of_mem_trimBare holds)
    split at h
    · exact .inl (State.holds_of_finish h (fun _ => rfl) (fun _ => rfl) mem_of_mem_trimBare holds)
    split at h
    · exact .inl (State.holds_of_colon h holds)
    · grind [State.Holds, State.at, Place.text]

/-- A run adds at most the characters of its text. -/
theorem State.holds_of_steps {text : List Char} (h : text.foldlM step s = some s')
    (holds : s'.Holds d) : s.Holds d ∨ d ∈ text := by
  induction text generalizing s with
  | nil =>
    cases h
    exact .inl holds
  | cons c rest ih =>
    rw [List.foldlM_cons] at h
    obtain ⟨between, first, later⟩ := Option.bind_eq_some_iff.1 h
    rcases ih later with between | mem
    · rcases State.holds_of_step first between with before | rfl
      · exact .inl before
      · exact .inr List.mem_cons_self
    · exact .inr (List.mem_cons_of_mem c mem)

theorem State.holds_of_result {addresses : List (List Char)} (h : s.result = some addresses)
    {address : List Char} (mem : address ∈ addresses) (holds : d ∈ address) : s.Holds d := by
  obtain ⟨place, inGroup, found⟩ := s
  cases place with
  | bare text =>
    simp only [State.result] at h
    split at h
    · cases h
    · obtain ⟨ended, finish, rfl⟩ := Option.map_eq_some_iff.1 h
      have done : ((State.mk (.bare text) inGroup found).finish (trimBare text)).map (·.at .start) =
          some (ended.at .start) := by rw [finish]; rfl
      exact State.holds_of_finish done (fun _ => rfl) (fun _ => rfl) mem_of_mem_trimBare
        (.inr ⟨address, List.mem_reverse.1 mem, holds⟩)
  | _ => grind [State.result, State.Holds]

/-- The characters of the addresses stand in the header. -/
theorem mem_of_mem_parse {header : List Char} {addresses : List (List Char)}
    (h : parse header = some addresses) {address : List Char} (mem : address ∈ addresses)
    (holds : d ∈ address) : d ∈ header := by
  obtain ⟨s, run, result⟩ := Option.bind_eq_some_iff.1 h
  rcases State.holds_of_steps run (State.holds_of_result result mem holds) with initial | mem
  · rcases initial with text | ⟨address, none, -⟩
    · cases text
    · cases none
  · exact mem

end InboxAudit.Mail.AddressList

namespace InboxAudit.Mail
set_option autoImplicit false

open InboxAudit.Text

theorem mem_lowerCase_of_mem_addressDomain {address : List Char} {c : Char}
    (h : c ∈ addressDomain address) : c ∈ lowerCase (strip address) := by
  unfold addressDomain at h
  split at h
  · next domain last =>
    have mem := (isInfix_trim isDomainEdge domain).mem h
    unfold afterLast? at last
    split at last
    · cases last
      exact List.mem_reverse.1 ((List.takeWhile_prefix _).mem (List.mem_reverse.1 mem))
    · cases last
  · cases h

theorem domainOf_of_parse_none {header : List Char} (unread : AddressList.parse (strip header) = none) :
    domainOf header = addressDomain (strip header) := by
  have filled : strip header ≠ [] := by
    intro empty
    rw [empty] at unread
    cases unread
  simp only [domainOf, if_neg filled, unread]

theorem domainOf_of_parse_some {header : List Char} {addresses : List (List Char)}
    (read : AddressList.parse (strip header) = some addresses) :
    domainOf header = ((addresses.map addressDomain).find? (· ≠ [])).getD [] := by
  by_cases empty : strip header = []
  · have none : addresses = [] := by
      rw [empty] at read
      exact (Option.some.inj read).symm
    simp [domainOf, empty, none]
  · simp only [domainOf, if_neg empty, read]

/-- A domain that is not empty is that of an address made of characters of the header. -/
theorem exists_address_of_domainOf (header : List Char) :
    domainOf header = [] ∨
      ∃ address, domainOf header = addressDomain address ∧ ∀ c ∈ address, c ∈ header := by
  have within : ∀ c ∈ strip header, c ∈ header := fun c => (isInfix_trim _ header).mem
  cases parsed : AddressList.parse (strip header) with
  | none => exact .inr ⟨strip header, domainOf_of_parse_none parsed, within⟩
  | some addresses =>
    rw [domainOf_of_parse_some parsed]
    cases first : (addresses.map addressDomain).find? (· ≠ []) with
    | none => exact .inl rfl
    | some domain =>
      obtain ⟨address, mem, rfl⟩ := List.mem_map.1 (List.mem_of_find?_eq_some first)
      exact .inr ⟨address, rfl, fun c holds =>
        within c (AddressList.mem_of_mem_parse parsed mem holds)⟩

theorem isLower_of_mem_domainOf {header : List Char} {c : Char} (h : c ∈ domainOf header) :
    IsLower c := by
  rcases exists_address_of_domainOf header with empty | ⟨address, eq, -⟩
  · rw [empty] at h
    cases h
  · rw [eq] at h
    exact isLower_of_mem_lowerCase (mem_lowerCase_of_mem_addressDomain h)

/-- An ASCII character of the domain that is no letter stands in the header. -/
theorem mem_of_mem_domainOf {header : List Char} {c : Char} (ascii : c.toNat < 0x80)
    (noLetter : c.isAlpha = false) (h : c ∈ domainOf header) : c ∈ header := by
  rcases exists_address_of_domainOf header with empty | ⟨address, eq, within⟩
  · rw [empty] at h
    cases h
  · rw [eq] at h
    have lowered := mem_lowerCase_of_mem_addressDomain h
    exact within c ((isInfix_trim _ address).mem (mem_of_mem_lowerCase ascii noLetter lowered))

end InboxAudit.Mail
