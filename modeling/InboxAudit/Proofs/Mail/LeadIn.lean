import InboxAudit.Mail.Address
import InboxAudit.Proofs.Text.Parts

/-!
# What stands before an address in angle brackets

The reader of address lists takes the text before the first angle bracket on its own: the text decides
whether the bracketed address ends a list, and which bare addresses the list has before it
(`parse_bracketed`). The inside of the brackets only matters where it could end what the text leaves open, a
quoted name or a comment. A name without commas and semicolons lists nothing (`eq_nil_of_before?`); bare
addresses before commas are listed in order, and a phrase after them adds none (`IsLeadIn.before?_eq`).
-/

namespace InboxAudit.Mail.AddressList
set_option autoImplicit false

open InboxAudit.Text (isBlank strip trimStart trimStart_cons_of_neg trimStart_cons_of_pos mem_trim)

variable {s s' : State} {c : Char} {text : List Char}

/-- The addresses found so far, if one in angle brackets may end the list. -/
def State.before? (s : State) : Option (List (List Char)) :=
  match s.place with
  | .start | .groupStart | .named | .bare _ => if s.inGroup then none else some s.found.reverse
  | _ => none

/-- The addresses that a text lists before an address in angle brackets, if one may end the list. -/
def before? (text : List Char) : Option (List (List Char)) :=
  (text.foldlM step State.initial).bind State.before?

/-- The reader stands neither inside angle brackets nor right behind them. -/
def State.IsOutside (s : State) : Prop :=
  match s.place with
  | .bracket _ | .closed | .closedComment => False
  | _ => True

theorem State.isOutside_initial : State.initial.IsOutside := trivial

theorem State.outside_of_step (outside : s.IsOutside) (noBracket : c ≠ '<') (run : step s c = some s') :
    s'.IsOutside ∧ (c ≠ ',' → c ≠ ';' → s'.found = s.found) := by
  obtain ⟨place, inGroup, found⟩ := s
  cases place with
  | bracket | closed | closedComment => exact outside.elim
  | start | groupStart =>
    grind [step, State.begin, State.IsOutside, State.at, State.semicolon]
  | quoted | escaped | named | bareComment =>
    grind [step, State.IsOutside, State.at, State.colon]
  | bare address =>
    grind [step, State.IsOutside, State.at, State.colon, State.semicolon, State.finish]

/-- Without an angle bracket the reader stays outside, and only a comma or a semicolon ends an address. -/
theorem State.outside_of_steps (outside : s.IsOutside) (noBracket : '<' ∉ text)
    (run : text.foldlM step s = some s') :
    s'.IsOutside ∧ (',' ∉ text → ';' ∉ text → s'.found = s.found) := by
  induction text generalizing s with
  | nil =>
    cases run
    exact ⟨outside, fun _ _ => rfl⟩
  | cons c rest ih =>
    rw [List.foldlM_cons] at run
    obtain ⟨between, first, later⟩ := Option.bind_eq_some_iff.1 run
    obtain ⟨head, tail⟩ := List.ne_and_not_mem_of_not_mem_cons noBracket
    obtain ⟨stays, keeps⟩ := State.outside_of_step outside head.symm first
    obtain ⟨ends, finds⟩ := ih stays tail later
    refine ⟨ends, fun comma semicolon => ?_⟩
    obtain ⟨comma, commas⟩ := List.ne_and_not_mem_of_not_mem_cons comma
    obtain ⟨semicolon, semicolons⟩ := List.ne_and_not_mem_of_not_mem_cons semicolon
    rw [finds commas semicolons, keeps comma.symm semicolon.symm]

section Runs

variable {u : Option State}

theorem foldlM_cons_of_step (first : step s c = some s') (rest : text.foldlM step s' = u) :
    (c :: text).foldlM step s = u := by
  rw [List.foldlM_cons, first]
  exact rest

theorem foldlM_append_of_run {front : List Char} (first : front.foldlM step s = some s')
    (rest : text.foldlM step s' = u) : (front ++ text).foldlM step s = u := by
  rw [List.foldlM_append, first]
  exact rest

end Runs

theorem foldlM_of_stays (stays : ∀ c ∈ text, step s c = some s) : text.foldlM step s = some s := by
  induction text with
  | nil => rfl
  | cons c rest ih =>
    obtain ⟨first, tail⟩ := List.forall_mem_cons.1 stays
    exact foldlM_cons_of_step first (ih tail)

/-- Characters that are only collected pile up in front of what is under way. -/
theorem foldlM_of_collects {place : List Char → Place} (s : State)
    (collects : ∀ c ∈ text, ∀ address, step (s.at (place address)) c = some (s.at (place (c :: address))))
    (address : List Char) :
    text.foldlM step (s.at (place address)) = some (s.at (place (text.reverse ++ address))) := by
  induction text generalizing address with
  | nil => rfl
  | cons c rest ih =>
    obtain ⟨first, tail⟩ := List.forall_mem_cons.1 collects
    rw [List.reverse_cons, List.append_assoc]
    exact foldlM_cons_of_step (first address) (ih tail (c :: address))

section Bracketed

variable {address : List Char} (plain : ∀ c ∈ address, c ≠ '>' ∧ c ≠ '"' ∧ c ≠ '\\' ∧ c ≠ ')')
include plain

/-- What is left open takes the bracketed address in, and the list does not end. -/
theorem result_of_stays (stays : ∀ c, c ≠ '"' → c ≠ '\\' → c ≠ ')' → step s c = some s)
    (unfinished : s.result = none) :
    ((' ' :: '<' :: address ++ ['>']).foldlM step s).bind State.result = none := by
  have run : (' ' :: '<' :: address ++ ['>']).foldlM step s = some s := by
    apply foldlM_of_stays
    intro c mem
    have free : c ≠ '"' ∧ c ≠ '\\' ∧ c ≠ ')' := by
      rcases List.mem_append.1 mem with mem | mem
      · rcases List.mem_cons.1 mem with rfl | mem
        · decide
        rcases List.mem_cons.1 mem with rfl | mem
        · decide
        exact (plain c mem).2
      · rw [List.mem_singleton.1 mem]
        decide
    exact stays c free.1 free.2.1 free.2.2
  rw [run]
  exact unfinished

variable (atSign : '@' ∈ address)
include atSign

/-- From where an angle bracket may open, the bracketed address is the last one. -/
theorem result_of_opens {place : Place} (blank : step s ' ' = some (s.at place))
    (opens : step (s.at place) '<' = some (s.at (.bracket []))) :
    ((' ' :: '<' :: address ++ ['>']).foldlM step s).bind State.result =
      if s.inGroup then none else some (s.found.reverse ++ [address]) := by
  have inside : (' ' :: '<' :: address).foldlM step s = some (s.at (.bracket address.reverse)) := by
    have run : address.foldlM step (s.at (.bracket [])) = some (s.at (.bracket (address.reverse ++ []))) := by
      refine foldlM_of_collects s (fun c mem under => ?_) []
      simp [step, State.at, (plain c mem).1]
    rw [List.append_nil] at run
    exact foldlM_cons_of_step blank (foldlM_cons_of_step opens run)
  have closes : step (s.at (.bracket address.reverse)) '>' =
      some { s with place := .closed, found := address :: s.found } := by
    simp [step, State.at, State.finish, atSign]
  rw [foldlM_append_of_run inside (foldlM_cons_of_step closes List.foldlM_nil)]
  simp [State.result]

theorem result_bracketed (outside : s.IsOutside) :
    ((' ' :: '<' :: address ++ ['>']).foldlM step s).bind State.result =
      s.before?.map (· ++ [address]) := by
  have listed : (if s.inGroup then none else some (s.found.reverse ++ [address])) =
      (if s.inGroup then none else some s.found.reverse).map (· ++ [address]) := by
    split <;> rfl
  obtain ⟨place, inGroup, found⟩ := s
  cases place with
  | bracket | closed | closedComment => exact outside.elim
  | start | groupStart | named | bare => exact (result_of_opens plain atSign rfl rfl).trans listed
  | quoted =>
    refine result_of_stays plain (fun c quote escape _ => ?_) rfl
    simp [step, quote, escape]
  | bareComment =>
    refine result_of_stays plain (fun c _ _ closing => ?_) rfl
    simp [step, closing]
  | escaped =>
    -- The space is what the backslash stands before; all else is quoted.
    have quoted := result_of_stays (s := ⟨.quoted, inGroup, found⟩) plain
      (fun c quote escape _ => by simp [step, quote, escape]) rfl
    exact quoted

end Bracketed

/-- The text before the brackets and the address between them make up the list. -/
theorem parse_bracketed {name address : List Char} (noBracket : '<' ∉ name) (atSign : '@' ∈ address)
    (plain : ∀ c ∈ address, c ≠ '>' ∧ c ≠ '"' ∧ c ≠ '\\' ∧ c ≠ ')') :
    parse (name ++ (' ' :: '<' :: address ++ ['>'])) = (before? name).map (· ++ [address]) := by
  rw [parse, List.foldlM_append, before?]
  cases run : name.foldlM step State.initial with
  | none => rfl
  | some s =>
    have outside : s.IsOutside := (State.outside_of_steps State.isOutside_initial noBracket run).1
    exact result_bracketed plain atSign outside

theorem eq_nil_of_before? {listed : List (List Char)} (noBracket : '<' ∉ text) (noComma : ',' ∉ text)
    (noSemicolon : ';' ∉ text) (h : before? text = some listed) : listed = [] := by
  obtain ⟨s, run, listing⟩ := Option.bind_eq_some_iff.1 h
  have none : s.found = [] := (State.outside_of_steps State.isOutside_initial noBracket run).2 noComma noSemicolon
  grind [State.before?]

/-- White space before the header is passed over. -/
theorem parse_trimStart (header : List Char) : parse (trimStart isBlank header) = parse header := by
  induction header with
  | nil => rfl
  | cons c rest ih =>
    cases blank : isBlank c with
    | false => rw [trimStart_cons_of_neg blank]
    | true =>
      have stays : step State.initial c = some State.initial := by
        simp [step, State.initial, State.begin, blank, State.at]
      rw [trimStart_cons_of_pos blank, ih, parse, parse, List.foldlM_cons, stays]
      rfl

section Phrases

/-- A character of a name that means nothing to the reader. -/
def isPhraseChar (c : Char) : Bool :=
  c ≠ '"' && c ≠ '(' && c ≠ ',' && c ≠ ':' && c ≠ ';' && c ≠ '<'

/-- A display name: words, with one part of them quoted or in parentheses at most. -/
inductive IsPhrase : List Char → Prop where
  | words {text : List Char} (free : ∀ c ∈ text, isPhraseChar c = true) : IsPhrase text
  | quoted {before text after : List Char} (blank : ∀ c ∈ before, isBlank c = true)
      (noQuote : '"' ∉ text) (noEscape : '\\' ∉ text) (free : ∀ c ∈ after, isPhraseChar c = true) :
      IsPhrase (before ++ '"' :: text ++ '"' :: after)
  | commented {before text after : List Char} (filled : ∃ c ∈ before, isBlank c = false)
      (free : ∀ c ∈ before, isPhraseChar c = true) (noClosing : ')' ∉ text)
      (rest : ∀ c ∈ after, isPhraseChar c = true) : IsPhrase (before ++ '(' :: text ++ ')' :: after)

/-- A display name after bare addresses, each of them before a comma. -/
inductive IsLeadIn : List Char → List (List Char) → Prop where
  | phrase {text : List Char} (name : IsPhrase text) : IsLeadIn text []
  | address {text rest : List Char} {listed : List (List Char)} (atSign : '@' ∈ text)
      (free : ∀ c ∈ text, isPhraseChar c = true) (more : IsLeadIn rest listed) :
      IsLeadIn (text ++ ',' :: rest) (strip text :: listed)

theorem isPhraseChar_iff : isPhraseChar c = true ↔
    c ≠ '"' ∧ c ≠ '(' ∧ c ≠ ',' ∧ c ≠ ':' ∧ c ≠ ';' ∧ c ≠ '<' := by
  simp [isPhraseChar, and_assoc]

theorem foldlM_bare (free : ∀ c ∈ text, isPhraseChar c = true) (s : State) (address : List Char) :
    text.foldlM step (s.at (.bare address)) = some (s.at (.bare (text.reverse ++ address))) := by
  refine foldlM_of_collects s (fun c mem under => ?_) address
  have := isPhraseChar_iff.1 (free c mem)
  simp [step, State.at, this]

theorem step_start_of_blank (blank : isBlank c = true) (s : State) :
    step (s.at .start) c = some (s.at .start) := by
  simp [step, State.at, State.begin, blank]

theorem foldlM_blank (blank : ∀ c ∈ text, isBlank c = true) (s : State) :
    text.foldlM step (s.at .start) = some (s.at .start) :=
  foldlM_of_stays fun c mem => step_start_of_blank (blank c mem) s

/-- Words are a bare address under way, without the white space before them. -/
theorem foldlM_words (filled : ∃ c ∈ text, isBlank c = false)
    (free : ∀ c ∈ text, isPhraseChar c = true) (s : State) :
    text.foldlM step (s.at .start) = some (s.at (.bare (trimStart isBlank text).reverse)) := by
  induction text with
  | nil =>
    obtain ⟨c, mem, -⟩ := filled
    cases mem
  | cons c rest ih =>
    obtain ⟨first, tail⟩ := List.forall_mem_cons.1 free
    cases blank : isBlank c with
    | true =>
      have later : ∃ d ∈ rest, isBlank d = false := by
        obtain ⟨d, mem, visible⟩ := filled
        rcases List.mem_cons.1 mem with rfl | mem
        · rw [blank] at visible
          cases visible
        · exact ⟨d, mem, visible⟩
      rw [trimStart_cons_of_pos blank]
      exact foldlM_cons_of_step (step_start_of_blank blank s) (ih later tail)
    | false =>
      have begins : step (s.at .start) c = some (s.at (.bare [c])) := by
        have := isPhraseChar_iff.1 first
        simp [step, State.at, State.begin, blank, this]
      rw [trimStart_cons_of_neg blank, List.reverse_cons]
      exact foldlM_cons_of_step begins (foldlM_bare tail s [c])

/-- The white space around a bare address is no part of it. -/
theorem foldlM_listed (atSign : '@' ∈ text) (free : ∀ c ∈ text, isPhraseChar c = true) (s : State) :
    (text ++ [',']).foldlM step (s.at .start) =
      some { s with place := .start, found := strip text :: s.found } := by
  have trimmed : trimBare (trimStart isBlank text).reverse = (strip text).reverse :=
    (List.reverse_reverse _).symm
  have kept : '@' ∈ (strip text).reverse := List.mem_reverse.2 (mem_trim (by decide) atSign)
  refine foldlM_append_of_run (foldlM_words ⟨'@', atSign, by decide⟩ free s) (foldlM_cons_of_step ?_ rfl)
  simp [step, State.at, trimmed, State.finish, kept]

/-- A phrase leads to where an angle bracket may open. -/
theorem IsPhrase.before?_eq (h : IsPhrase text) (s : State) :
    (text.foldlM step (s.at .start)).bind State.before? = (s.at .start).before? := by
  cases h with
  | words free =>
    by_cases filled : ∃ c ∈ text, isBlank c = false
    · rw [foldlM_words filled free]
      rfl
    · have blank : ∀ c ∈ text, isBlank c = true := by simpa using filled
      rw [foldlM_blank blank]
      rfl
  | @quoted before text after blank noQuote noEscape free =>
    have inside : text.foldlM step (s.at .quoted) = some (s.at .quoted) := by
      refine foldlM_of_stays fun c mem => ?_
      simp [step, State.at, ne_of_mem_of_not_mem mem noQuote, ne_of_mem_of_not_mem mem noEscape]
    have rest : after.foldlM step (s.at .named) = some (s.at .named) := by
      refine foldlM_of_stays fun c mem => ?_
      have := isPhraseChar_iff.1 (free c mem)
      simp [step, State.at, this]
    have opens : ('"' :: text).foldlM step (s.at .start) = some (s.at .quoted) :=
      foldlM_cons_of_step rfl inside
    have closes : ('"' :: after).foldlM step (s.at .quoted) = some (s.at .named) :=
      foldlM_cons_of_step rfl rest
    rw [foldlM_append_of_run (foldlM_append_of_run (foldlM_blank blank s) opens) closes]
    rfl
  | @commented before text after filled free noClosing rest =>
    have inside (address : List Char) : text.foldlM step (s.at (.bareComment address)) =
        some (s.at (.bareComment address)) := by
      refine foldlM_of_stays fun c mem => ?_
      simp [step, State.at, ne_of_mem_of_not_mem mem noClosing]
    have opens (address : List Char) : ('(' :: text).foldlM step (s.at (.bare address)) =
        some (s.at (.bareComment address)) :=
      foldlM_cons_of_step rfl (inside address)
    have closes (address : List Char) : (')' :: after).foldlM step (s.at (.bareComment address)) =
        some (s.at (.bare (after.reverse ++ address))) :=
      foldlM_cons_of_step rfl (foldlM_bare rest s address)
    rw [foldlM_append_of_run (foldlM_append_of_run (foldlM_words filled free s) (opens _)) (closes _)]
    rfl

theorem IsLeadIn.steps {listed : List (List Char)} (h : IsLeadIn text listed) (s : State) :
    (text.foldlM step (s.at .start)).bind State.before? = (s.at .start).before?.map (· ++ listed) := by
  induction h generalizing s with
  | phrase name => simp [name.before?_eq]
  | @address text rest listed atSign free more ih =>
    have first := foldlM_listed atSign free s
    have later := ih { s with found := strip text :: s.found }
    rw [List.append_cons, foldlM_append_of_run first rfl]
    refine later.trans ?_
    cases group : s.inGroup <;> simp [State.before?, State.at, group]

theorem IsLeadIn.before?_eq {listed : List (List Char)} (h : IsLeadIn text listed) :
    AddressList.before? text = some listed :=
  h.steps State.initial

end Phrases

end InboxAudit.Mail.AddressList
