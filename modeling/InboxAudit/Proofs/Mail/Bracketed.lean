import InboxAudit.Proofs.Mail.Domain
import InboxAudit.Proofs.Mail.LeadIn
import InboxAudit.Proofs.Mail.ListId
import InboxAudit.Proofs.Text.Marks

/-!
# The domain of an address in angle brackets

A header `name <user@domain>` gives `domain` in lower case, unless the name itself lists an address with a
domain before it: the first one wins (`senderDomain_bracketed`). With a name that leaves a quote open, or has a
comma after what is no address, the header is no address list, and what follows its last `@` is the domain all
the same, but for a closing bracket. Either way the domain is read off behind an `@` (`addressDomain_append`).
-/

namespace InboxAudit.Mail
set_option autoImplicit false

open InboxAudit.Text

/-- A letter, a digit, a dot or a hyphen. -/
def isDomainChar (c : Char) : Bool := c.isAlphanum || c = '.' || c = '-'

/-- A character of the part of an address before its `@`. -/
def isUserChar (c : Char) : Bool := isDomainChar c || c = '_' || c = '+'

/-- A domain as it is written in an address. -/
structure IsDomain (s : List Char) : Prop where
  filled : s ≠ []
  made : ∀ c ∈ s, isDomainChar c = true
  begins : '.' ∉ s.head?
  ends : '.' ∉ s.getLast?

/-- A visible character of ASCII that may stand behind the `@` of an address. -/
def IsAddressChar (c : Char) : Prop := c.toNat < 0x80 ∧ isBlank c = false ∧ c ≠ '@'

variable {c : Char} {s : List Char}

theorem toNat_lt_of_isAlphanum (h : c.isAlphanum = true) : c.toNat < 0x80 := by
  have kinds : (c.isUpper = true ∨ c.isLower = true) ∨ c.isDigit = true := by
    rw [← Bool.or_eq_true, ← Bool.or_eq_true]
    exact h
  have below (high : Char) (bound : high.toNat < 0x80) (le : c.val ≤ high.val) : c.toNat < 0x80 :=
    Nat.lt_of_le_of_lt (UInt32.le_iff_toNat_le.1 le) bound
  rcases kinds with (upper | lower) | digit
  · exact below 'Z' (by decide) (of_decide_eq_true upper).2
  · exact below 'z' (by decide) (of_decide_eq_true (Bool.and_eq_true_iff.1 lower).2)
  · exact below '9' (by decide) (of_decide_eq_true (Bool.and_eq_true_iff.1 digit).2)

theorem isAddressChar_of_isDomainChar (h : isDomainChar c = true) : IsAddressChar c := by
  have ascii : c.toNat < 0x80 := by
    simp only [isDomainChar, Bool.or_eq_true, decide_eq_true_eq] at h
    rcases h with (letter | rfl) | rfl
    · exact toNat_lt_of_isAlphanum letter
    · decide
    · decide
  have all : ∀ n < 0x80, isDomainChar (Char.ofNat n) = true →
      isBlank (Char.ofNat n) = false ∧ Char.ofNat n ≠ '@' := by decide
  have solid := all c.toNat ascii
  rw [Char.ofNat_toNat] at solid
  exact ⟨ascii, solid h⟩

theorem plain_of_isUserChar (h : isUserChar c = true) : c ≠ '>' ∧ c ≠ '"' ∧ c ≠ '\\' ∧ c ≠ ')' := by
  refine ⟨?_, ?_, ?_, ?_⟩ <;>
  · rintro rfl
    exact absurd h (by decide)

theorem isUserChar_of_isDomainChar (h : isDomainChar c = true) : isUserChar c = true := by
  simp [isUserChar, h]

theorem afterLast?_append {mark : Char} {s : List Char} (none : mark ∉ s) (front : List Char) :
    afterLast? mark (front ++ mark :: s) = some s := by
  have keeps : ∀ c ∈ s.reverse, decide (c ≠ mark) = true := fun c mem =>
    decide_eq_true (ne_of_mem_of_not_mem (List.mem_reverse.1 mem) none)
  rw [afterLast?, if_pos (by simp), List.reverse_append, List.reverse_cons, List.append_assoc,
    List.takeWhile_append_of_pos keeps]
  simp

theorem caseless_isDomainEdge : Caseless isDomainEdge := caseless_of_letters (by decide)

/-- The domain of an address is the text behind its last `@`. -/
theorem addressDomain_append (made : ∀ c ∈ s, IsAddressChar c) (trimmed : trim isDomainEdge s = s)
    (front : List Char) : addressDomain (front ++ '@' :: s) = foldCase s := by
  have visible : ∀ d ∈ (front ++ '@' :: s).getLast?, isBlank d = false := by
    intro d last
    rw [List.getLast?_append_of_ne_nil _ (List.cons_ne_nil _ _)] at last
    rcases List.mem_cons.1 (List.mem_of_mem_getLast? last) with rfl | mem
    · decide
    · exact (made d mem).2.1
  have ascii : ∀ c ∈ '@' :: s, c.toNat < 0x80 :=
    List.forall_mem_cons.2 ⟨by decide, fun c mem => (made c mem).1⟩
  have none : '@' ∉ foldCase s := fun mem =>
    (made '@' ((mem_foldCase_iff (by decide)).1 mem)).2.2 rfl
  rw [addressDomain, strip_eq_trimStart visible, trimStart_append_cons (by decide), lowerCase,
    lowerAfter_append, lowerAfter_of_ascii ascii, foldCase_cons]
  rw [show Char.toLower '@' = '@' from rfl, afterLast?_append none]
  exact (trim_foldCase caseless_isDomainEdge s).trans (congrArg foldCase trimmed)

theorem isDomainEdge_of_isAddressChar (h : IsAddressChar c) (noDot : c ≠ '.') : isDomainEdge c = false := by
  have noSpace : c ≠ ' ' := by
    rintro rfl
    exact absurd h.2.1 (by decide)
  simp [isDomainEdge, noDot, noSpace]

namespace IsDomain

variable (h : IsDomain s)
include h

theorem isAddressChar : ∀ c ∈ s, IsAddressChar c := fun c mem => isAddressChar_of_isDomainChar (h.made c mem)

theorem lowerCase_eq : lowerCase s = foldCase s :=
  lowerAfter_of_ascii (fun c mem => (h.isAddressChar c mem).1) []

theorem head?_isDomainEdge : ∀ c ∈ s.head?, isDomainEdge c = false := by
  intro c first
  refine isDomainEdge_of_isAddressChar (h.isAddressChar c (List.mem_of_head? first)) ?_
  rintro rfl
  exact h.begins first

theorem addressDomain_append (front : List Char) : addressDomain (front ++ '@' :: s) = foldCase s := by
  refine Mail.addressDomain_append h.isAddressChar (trim_eq_self_iff.2 ⟨h.head?_isDomainEdge, ?_⟩) front
  intro c last
  refine isDomainEdge_of_isAddressChar (h.isAddressChar c (List.mem_of_mem_getLast? last)) ?_
  rintro rfl
  exact h.ends last

/-- The closing bracket is taken for a part of the domain. -/
theorem addressDomain_append_bracket (front : List Char) :
    addressDomain (front ++ '@' :: (s ++ ['>'])) = foldCase (s ++ ['>']) := by
  have made : ∀ c ∈ s ++ ['>'], IsAddressChar c := by
    intro c mem
    rcases List.mem_append.1 mem with mem | mem
    · exact h.isAddressChar c mem
    · rw [List.mem_singleton.1 mem]
      exact ⟨by decide, by decide, by decide⟩
  refine Mail.addressDomain_append made (trim_eq_self_iff.2 ⟨fun c first => ?_, fun c last => ?_⟩) front
  · rw [List.head?_append_of_ne_nil _ h.filled] at first
    exact h.head?_isDomainEdge c first
  · rw [List.getLast?_concat, Option.mem_some_iff] at last
    subst last
    decide

end IsDomain

section Bracketed

variable {name user domain : List Char}

/-- A header that ends in an address in angle brackets. -/
def bracketed (name user domain : List Char) : List Char :=
  name ++ (' ' :: '<' :: (user ++ '@' :: domain) ++ ['>'])

theorem strip_bracketed (name user domain : List Char) :
    strip (bracketed name user domain) = trimStart isBlank (bracketed name user domain) := by
  apply strip_eq_trimStart
  intro d last
  rw [bracketed, ← List.append_assoc, List.getLast?_concat, Option.mem_some_iff] at last
  subst last
  decide

theorem exists_strip_bracketed (name user domain : List Char) :
    ∃ front, strip (bracketed name user domain) = front ++ '@' :: (domain ++ ['>']) := by
  have whole : bracketed name user domain =
      (name ++ [' ']) ++ '<' :: (user ++ '@' :: (domain ++ ['>'])) := by
    simp [bracketed]
  refine ⟨trimStart isBlank (name ++ [' ']) ++ '<' :: user, ?_⟩
  rw [strip_bracketed, whole, trimStart_append_cons (by decide), List.append_assoc, List.cons_append]

theorem parse_strip_bracketed (name user domain : List Char) :
    AddressList.parse (strip (bracketed name user domain)) =
      AddressList.parse (bracketed name user domain) := by
  rw [strip_bracketed, AddressList.parse_trimStart]

variable (noBracket : '<' ∉ name) (written : ∀ c ∈ user, isUserChar c = true) (h : IsDomain domain)
include noBracket written h

theorem parse_bracketed :
    AddressList.parse (bracketed name user domain) =
      (AddressList.before? name).map (· ++ [user ++ '@' :: domain]) := by
  have plain : ∀ c ∈ user ++ '@' :: domain, c ≠ '>' ∧ c ≠ '"' ∧ c ≠ '\\' ∧ c ≠ ')' := by
    intro c mem
    rcases List.mem_append.1 mem with mem | mem
    · exact plain_of_isUserChar (written c mem)
    rcases List.mem_cons.1 mem with rfl | mem
    · decide
    · exact plain_of_isUserChar (isUserChar_of_isDomainChar (h.made c mem))
  exact AddressList.parse_bracketed noBracket (by simp) plain

theorem domainOf_bracketed_of_some {listed : List (List Char)}
    (before : AddressList.before? name = some listed) :
    domainOf (bracketed name user domain) =
      ((listed.map addressDomain).find? (· ≠ [])).getD (lowerCase domain) := by
  have filled : foldCase domain ≠ [] := fun none => h.filled (foldCase_eq_nil_iff.1 none)
  have read : AddressList.parse (strip (bracketed name user domain)) =
      some (listed ++ [user ++ '@' :: domain]) := by
    rw [parse_strip_bracketed, parse_bracketed noBracket written h, before]
    rfl
  rw [domainOf_of_parse_some read, List.map_append, List.find?_append, List.map_singleton,
    h.addressDomain_append, h.lowerCase_eq]
  cases (listed.map addressDomain).find? (· ≠ []) with
  | some domain => rfl
  | none => simp [filled]

/-- A header that is no address list has the same domain, but for a closing bracket. -/
theorem dropClosing_domainOf_bracketed (unfinished : AddressList.before? name = none) :
    ListId.dropClosing (domainOf (bracketed name user domain)) = lowerCase domain := by
  have unread : AddressList.parse (strip (bracketed name user domain)) = none := by
    rw [parse_strip_bracketed, parse_bracketed noBracket written h, unfinished]
    rfl
  obtain ⟨front, split⟩ := exists_strip_bracketed name user domain
  have folded : foldCase (domain ++ ['>']) = foldCase domain ++ ['>'] := List.map_append
  rw [domainOf_of_parse_none unread, split, h.addressDomain_append_bracket, folded,
    ListId.dropClosing_concat, if_pos rfl, h.lowerCase_eq]

end Bracketed

/-- The address in angle brackets is the last one of its header, after those that the name lists, and the first
of them that has a domain gives it. A name without commas and semicolons lists none. Where the name lets no such
address follow, the header is no address list, and the domain is that of the bracketed address but for a closing
bracket. -/
theorem senderDomain_bracketed {name user domain : String} (noBracket : '<' ∉ name.toList)
    (written : ∀ c ∈ user.toList, isUserChar c = true) (named : IsDomain domain.toList) :
    let header := name ++ " <" ++ user ++ "@" ++ domain ++ ">"
    let address := user ++ "@" ++ domain
    AddressList.parse header.toList = (AddressList.before? name.toList).map (· ++ [address.toList]) ∧
      (∀ listed, AddressList.before? name.toList = some listed →
        (senderDomain header).toList =
          ((listed.map addressDomain).find? (· ≠ [])).getD (lowerCase domain.toList)) ∧
      (AddressList.before? name.toList = none →
        ListId.dropClosing (senderDomain header).toList = lowerCase domain.toList) ∧
      (∀ listed, AddressList.IsLeadIn name.toList listed →
        AddressList.before? name.toList = some listed) ∧
      (',' ∉ name.toList → ';' ∉ name.toList → AddressList.before? name.toList ≠ none →
        (senderDomain header).toList = lowerCase domain.toList) := by
  intro header address
  have whole : header.toList = bracketed name.toList user.toList domain.toList := by
    simp [header, bracketed]
  have ends : address.toList = user.toList ++ '@' :: domain.toList := by
    simp [address]
  have domain_eq : (senderDomain header).toList =
      domainOf (bracketed name.toList user.toList domain.toList) := by
    rw [senderDomain, String.toList_ofList, whole]
  have wins (listed : List (List Char)) (before : AddressList.before? name.toList = some listed) :
      (senderDomain header).toList =
        ((listed.map addressDomain).find? (· ≠ [])).getD (lowerCase domain.toList) :=
    domain_eq.trans (domainOf_bracketed_of_some noBracket written named before)
  refine ⟨?_, wins, ?_, fun listed leads => leads.before?_eq, ?_⟩
  · rw [whole, ends]
    exact parse_bracketed noBracket written named
  · intro unfinished
    rw [domain_eq]
    exact dropClosing_domainOf_bracketed noBracket written named unfinished
  · intro noComma noSemicolon finished
    obtain ⟨listed, before⟩ := Option.ne_none_iff_exists'.1 finished
    have none : listed = [] := AddressList.eq_nil_of_before? noBracket noComma noSemicolon before
    rw [wins listed before, none]
    rfl

/-- An address without a domain is passed over, and a comma in quotes lists nothing. -/
theorem senderDomain_bracketed_listed :
    let name := "ann@., \"Doe, Ann\""
    '<' ∉ name.toList ∧ (∀ c ∈ "Ann+1".toList, isUserChar c = true) ∧ IsDomain "Two.Example".toList ∧
      AddressList.before? name.toList = some ["ann@.".toList] ∧
      senderDomain (name ++ " <" ++ "Ann+1" ++ "@" ++ "Two.Example" ++ ">") = "two.example" := by
  intro name
  have noBracket : '<' ∉ name.toList := by decide
  have written : ∀ c ∈ "Ann+1".toList, isUserChar c = true := List.all_eq_true.1 (by decide)
  have named : IsDomain "Two.Example".toList :=
    ⟨by decide, List.all_eq_true.1 (by decide), by decide, by decide⟩
  have before : AddressList.before? name.toList = some ["ann@.".toList] := by decide
  obtain ⟨-, wins, -⟩ := senderDomain_bracketed noBracket written named
  refine ⟨noBracket, written, named, before, String.toList_inj.1 ((wins _ before).trans ?_)⟩
  decide

/-- An address that the name lists has its domain before the one in brackets. -/
theorem senderDomain_bracketed_ne :
    ¬ ∀ name user domain : String, '<' ∉ name.toList → '>' ∉ name.toList → user ≠ "" →
      (∀ c ∈ user.toList, isUserChar c = true) → IsDomain domain.toList →
        (senderDomain (name ++ " <" ++ user ++ "@" ++ domain ++ ">")).toList = lowerCase domain.toList := by
  intro same
  have named : IsDomain "two.example".toList :=
    ⟨by decide, List.all_eq_true.1 (by decide), by decide, by decide⟩
  have written : ∀ c ∈ "ann".toList, isUserChar c = true := List.all_eq_true.1 (by decide)
  have wrong := same "a@one.example, Ann" "ann" "two.example" (by decide) (by decide) (by decide) written named
  have first : senderDomain ("a@one.example, Ann" ++ " <" ++ "ann" ++ "@" ++ "two.example" ++ ">") =
      "one.example" := by decide
  rw [first] at wrong
  exact absurd wrong (by decide)

end InboxAudit.Mail
