import InboxAudit.Text.Blank

/-!
# Parts of texts

Trimming leaves a part of the text (`isInfix_trim`) that has lost nothing but characters of the trimmed
class (`mem_trim`), and all of the text if neither end is of the class (`trim_eq_self_iff`). A needle
occurs in a text exactly if it is a part of it (`occursIn_iff`).
Splitting at a class of characters goes separately over the two sides of a separator
(`pieces_append_cons`), and every longest part without separators is one of the pieces
(`IsRun.mem_pieces`). The first separator alone parts a text in two (`splitFirst?_eq_some_iff`).
-/

namespace InboxAudit.Text
set_option autoImplicit false

variable {p : Char → Bool} {s : List Char}

theorem isSuffix_trimStart (p : Char → Bool) (s : List Char) : trimStart p s <:+ s :=
  List.dropWhile_suffix p

theorem isPrefix_trimEnd (p : Char → Bool) (s : List Char) : trimEnd p s <+: s := by
  have suffix : s.reverse.dropWhile p <:+ s.reverse := List.dropWhile_suffix p
  simpa [trimEnd] using List.reverse_prefix.2 suffix

theorem isInfix_trim (p : Char → Bool) (s : List Char) : trim p s <:+: s :=
  (isPrefix_trimEnd p _).isInfix.trans (isSuffix_trimStart p s).isInfix

theorem mem_trimStart {c : Char} (keeps : p c = false) (mem : c ∈ s) : c ∈ trimStart p s := by
  induction s with
  | nil => cases mem
  | cons first rest ih =>
    rw [trimStart, List.dropWhile_cons]
    split
    · next drops =>
      rcases List.mem_cons.1 mem with rfl | mem
      · rw [keeps] at drops
        cases drops
      · exact ih mem
    · exact mem

theorem mem_trimEnd {c : Char} (keeps : p c = false) (mem : c ∈ s) : c ∈ trimEnd p s :=
  List.mem_reverse.2 (mem_trimStart keeps (List.mem_reverse.2 mem))

theorem mem_trim {c : Char} (keeps : p c = false) (mem : c ∈ s) : c ∈ trim p s :=
  mem_trimEnd keeps (mem_trimStart keeps mem)

theorem trimStart_cons_of_neg {c : Char} (keeps : p c = false) (s : List Char) :
    trimStart p (c :: s) = c :: s := by
  rw [trimStart, List.dropWhile_cons_of_neg (by simp [keeps])]

theorem trimEnd_cons_of_neg {c : Char} (keeps : p c = false) (s : List Char) :
    trimEnd p (c :: s) = c :: trimEnd p s := by
  rw [trimEnd, trimEnd, List.reverse_cons, List.dropWhile_append]
  split
  · next empty => simp [List.isEmpty_iff.1 empty, keeps]
  · rw [List.reverse_append, List.reverse_singleton, List.singleton_append]

theorem occursIn_iff {needle : List Char} : occursIn needle s = true ↔ needle <:+: s := by
  induction s with
  | nil => simp [occursIn]
  | cons c rest ih =>
    rw [occursIn, Bool.or_eq_true, ih, List.isPrefixOf_iff_prefix, List.infix_cons_iff]

/-- The pieces before and after a separator. -/
theorem pieces_append_cons {c : Char} (separates : p c = true) (before after : List Char) :
    pieces p (before ++ c :: after) = pieces p before ++ pieces p after := by
  induction before with
  | nil => simp [pieces, separates]
  | cons first rest ih =>
    rw [List.cons_append, pieces, ih, pieces]
    split
    · rfl
    · cases split : pieces p rest with
      | nil => exact absurd split (pieces_ne_nil p rest)
      | cons piece more => rfl

theorem pieces_of_none (none : ∀ c ∈ s, p c = false) : pieces p s = [s] := by
  induction s with
  | nil => rfl
  | cons c rest ih =>
    obtain ⟨first, tail⟩ := List.forall_mem_cons.1 none
    rw [pieces, if_neg (by simp [first]), ih tail]

theorem eq_false_of_mem_pieces {piece : List Char} (mem : piece ∈ pieces p s) : ∀ c ∈ piece, p c = false := by
  induction s generalizing piece with
  | nil => simp_all [pieces]
  | cons c rest ih =>
    rw [pieces] at mem
    split at mem
    · rcases List.mem_cons.1 mem with rfl | mem
      · exact fun _ none => absurd none List.not_mem_nil
      · exact ih mem
    · next keeps =>
      split at mem
      · next none => exact absurd none (pieces_ne_nil p rest)
      · next first more found =>
        rw [found] at ih
        rcases List.mem_cons.1 mem with rfl | mem
        · exact List.forall_mem_cons.2 ⟨by simpa using keeps, ih List.mem_cons_self⟩
        · exact ih (List.mem_cons_of_mem _ mem)

/-- Texts without separators are the pieces of what they make with a separator between them. -/
theorem pieces_intercalate {c : Char} (separates : p c = true) {texts : List (List Char)}
    (filled : texts ≠ []) (free : ∀ text ∈ texts, ∀ d ∈ text, p d = false) :
    pieces p ([c].intercalate texts) = texts := by
  induction texts with
  | nil => exact absurd rfl filled
  | cons text rest ih =>
    obtain ⟨first, others⟩ := List.forall_mem_cons.1 free
    cases rest with
    | nil => rw [List.intercalate_singleton, pieces_of_none first]
    | cons next rest =>
      rw [List.intercalate_cons_cons, List.append_assoc, List.singleton_append,
        pieces_append_cons separates, pieces_of_none first, ih (List.cons_ne_nil _ _) others,
        List.singleton_append]

/-- The same of texts as they are joined. -/
theorem ofList_pieces_intercalate {c : Char} {sep : String} (single : sep.toList = [c]) {texts : List String}
    (filled : texts ≠ []) (free : ∀ text ∈ texts, c ∉ text.toList) :
    (pieces (· = c) (sep.intercalate texts).toList).map String.ofList = texts := by
  have free' : ∀ text ∈ texts.map String.toList, ∀ d ∈ text, decide (d = c) = false := by
    intro text mem d inside
    obtain ⟨name, listed, rfl⟩ := List.mem_map.1 mem
    rw [decide_eq_false_iff_not]
    rintro rfl
    exact free name listed inside
  have back : String.ofList ∘ String.toList = id := funext fun _ => String.ofList_toList
  rw [String.toList_intercalate, single, pieces_intercalate (by simp) (by simpa using filled) free', List.map_map,
    back, List.map_id]

/-- The sides of a text are parted by its first separator. -/
theorem splitFirst?_eq_some_iff {before after : List Char} :
    splitFirst? p s = some (before, after) ↔
      ∃ c, s = before ++ c :: after ∧ p c = true ∧ ∀ d ∈ before, p d = false := by
  constructor
  · intro split
    unfold splitFirst? at split
    cases rest : s.dropWhile (fun c => !p c) with
    | nil => rw [rest] at split; cases split
    | cons c after =>
      rw [rest] at split
      cases split
      have stops : p c = true := by simpa [rest] using List.head?_dropWhile_not (fun c => !p c) s
      refine ⟨c, by rw [← rest, List.takeWhile_append_dropWhile], stops, fun d mem => ?_⟩
      simpa using List.all_eq_true.1 List.all_takeWhile d mem
  · rintro ⟨c, rfl, separates, none⟩
    have keeps : ∀ d ∈ before, (!p d) = true := fun d mem => by rw [none d mem]; rfl
    simp [splitFirst?, List.dropWhile_append_of_pos keeps, List.takeWhile_append_of_pos keeps, separates]

/-- A longest part of the text without characters of class `p`. -/
def IsRun (p : Char → Bool) (run s : List Char) : Prop :=
  (∀ c ∈ run, p c = false) ∧ ∃ before after, s = before ++ run ++ after ∧
    (∀ c ∈ before.getLast?, p c = true) ∧ ∀ c ∈ after.head?, p c = true

theorem isRun_of_all {run before after : List Char} (none : run.all (!p ·) = true)
    (split : s = before ++ run ++ after) (begins : before.getLast?.all p = true)
    (ends : after.head?.all p = true) : IsRun p run s := by
  refine ⟨by simpa using none, before, after, split, ?_, ?_⟩
  · simpa [Option.all_eq_true] using begins
  · simpa [Option.all_eq_true] using ends

theorem mem_pieces_append {run after : List Char} (none : ∀ c ∈ run, p c = false)
    (ends : ∀ c ∈ after.head?, p c = true) : run ∈ pieces p (run ++ after) := by
  cases after with
  | nil => rw [List.append_nil, pieces_of_none none]; exact List.mem_singleton_self run
  | cons c after =>
    rw [pieces_append_cons (ends c rfl), pieces_of_none none]
    exact List.mem_append_left _ (List.mem_singleton_self run)

theorem IsRun.mem_pieces {run : List Char} (h : IsRun p run s) : run ∈ pieces p s := by
  obtain ⟨none, before, after, rfl, begins, ends⟩ := h
  have rest : run ∈ pieces p (run ++ after) := mem_pieces_append none ends
  rw [List.append_assoc]
  rcases List.eq_nil_or_concat before with rfl | ⟨before, c, rfl⟩
  · exact rest
  · rw [List.concat_eq_append, List.append_assoc, List.singleton_append,
      pieces_append_cons (begins c (by simp))]
    exact List.mem_append_right _ rest

theorem trimEnd_append_of_none {front : List Char} (keeps : ∀ c ∈ front, p c = false) (s : List Char) :
    trimEnd p (front ++ s) = front ++ trimEnd p s := by
  induction front with
  | nil => rfl
  | cons c rest ih =>
    obtain ⟨first, tail⟩ := List.forall_mem_cons.1 keeps
    rw [List.cons_append, trimEnd_cons_of_neg first, ih tail, List.cons_append]

section Trimmed

variable {tail : List Char} (drops : ∀ c ∈ tail, p c = true)
include drops

theorem trimEnd_append_of_all (s : List Char) : trimEnd p (s ++ tail) = trimEnd p s := by
  have drops' : ∀ c ∈ tail.reverse, p c = true := fun c mem => drops c (List.mem_reverse.1 mem)
  rw [trimEnd, List.reverse_append, List.dropWhile_append_of_pos drops', trimEnd]

/-- Characters of the trimmed class at the end make no difference. -/
theorem trim_append_of_all (s : List Char) : trim p (s ++ tail) = trim p s := by
  have nothing : trimStart p tail = [] := by
    rw [trimStart, ← List.append_nil tail, List.dropWhile_append_of_pos drops, List.dropWhile_nil]
  have start : trimStart p (s ++ tail) =
      if (trimStart p s).isEmpty then trimStart p tail else trimStart p s ++ tail :=
    List.dropWhile_append
  rw [trim, start, trim]
  split
  · next empty => rw [nothing, List.isEmpty_iff.1 empty]
  · exact trimEnd_append_of_all drops _

end Trimmed

theorem trim_eq_nil_iff : trim p s = [] ↔ ∀ c ∈ s, p c = true := by
  constructor
  · intro nothing c mem
    cases drops : p c with
    | true => rfl
    | false =>
      have kept : c ∈ trim p s := mem_trim drops mem
      rw [nothing] at kept
      cases kept
  · intro drops
    exact trim_append_of_all drops []

/-- What trimming takes from the end. -/
theorem exists_trimEnd_append (p : Char → Bool) (s : List Char) :
    ∃ tail, (∀ c ∈ tail, p c = true) ∧ trimEnd p s ++ tail = s := by
  refine ⟨(s.reverse.takeWhile p).reverse, ?_, ?_⟩
  · intro c mem
    exact List.all_eq_true.1 List.all_takeWhile c (List.mem_reverse.1 mem)
  · rw [trimEnd, ← List.reverse_append, List.takeWhile_append_dropWhile, List.reverse_reverse]

theorem exists_trimStart_append (p : Char → Bool) (s : List Char) :
    ∃ front, (∀ c ∈ front, p c = true) ∧ front ++ trimStart p s = s :=
  ⟨s.takeWhile p, fun c mem => List.all_eq_true.1 List.all_takeWhile c mem, List.takeWhile_append_dropWhile⟩

/-- What trimming takes from both ends. -/
theorem exists_append_trim_append (p : Char → Bool) (s : List Char) :
    ∃ front back, (∀ c ∈ front, p c = true) ∧ (∀ c ∈ back, p c = true) ∧ s = front ++ trim p s ++ back := by
  obtain ⟨front, before, split⟩ := exists_trimStart_append p s
  obtain ⟨back, after, rest⟩ := exists_trimEnd_append p (trimStart p s)
  exact ⟨front, back, before, after, by rw [List.append_assoc, trim, rest, split]⟩

section Ends

variable {q : Char → Bool}

theorem head?_of_isPrefix {t : List Char} {c : Char} (begins : t <+: s) (first : c ∈ t.head?) : c ∈ s.head? := by
  obtain ⟨rest, rfl⟩ := begins
  rw [List.head?_append, Option.mem_def.1 first]
  rfl

theorem head?_trimStart {c : Char} (first : c ∈ (trimStart p s).head?) : p c = false := by
  have stops := List.head?_dropWhile_not p s
  rw [trimStart, Option.mem_def] at first
  rwa [first] at stops

theorem getLast?_trimEnd {c : Char} (last : c ∈ (trimEnd p s).getLast?) : p c = false := by
  rw [trimEnd, List.getLast?_reverse] at last
  exact head?_trimStart last

theorem head?_trim {c : Char} (first : c ∈ (trim p s).head?) : p c = false :=
  head?_trimStart (head?_of_isPrefix (isPrefix_trimEnd p _) first)

theorem getLast?_trim {c : Char} (last : c ∈ (trim p s).getLast?) : p c = false :=
  getLast?_trimEnd last

theorem trimStart_eq_self_iff : trimStart p s = s ↔ ∀ c ∈ s.head?, p c = false := by
  constructor
  · intro same c first
    rw [← same] at first
    exact head?_trimStart first
  · intro keeps
    cases s with
    | nil => rfl
    | cons c rest => exact trimStart_cons_of_neg (keeps c rfl) rest

theorem trimEnd_eq_self_iff : trimEnd p s = s ↔ ∀ c ∈ s.getLast?, p c = false := by
  have backwards := trimStart_eq_self_iff (p := p) (s := s.reverse)
  rw [List.head?_reverse] at backwards
  rw [← backwards, trimEnd, trimStart, List.reverse_eq_iff]

theorem trim_eq_self_iff :
    trim p s = s ↔ (∀ c ∈ s.head?, p c = false) ∧ ∀ c ∈ s.getLast?, p c = false := by
  constructor
  · intro same
    constructor
    · intro c first
      rw [← same] at first
      exact head?_trim first
    · intro c last
      rw [← same] at last
      exact getLast?_trim last
  · rintro ⟨begins, ends⟩
    rw [trim, trimStart_eq_self_iff.2 begins, trimEnd_eq_self_iff.2 ends]

theorem trimStart_append_of_all {front : List Char} (drops : ∀ c ∈ front, p c = true) (s : List Char) :
    trimStart p (front ++ s) = trimStart p s :=
  List.dropWhile_append_of_pos drops

/-- A text that has nothing to trim is what is left when others are put around it that are all trimmed. -/
theorem trim_append_append {front back : List Char} (before : ∀ c ∈ front, p c = true)
    (after : ∀ c ∈ back, p c = true) (settled : trim p s = s) : trim p (front ++ s ++ back) = s := by
  rw [trim_append_of_all after, trim, trimStart_append_of_all before]
  exact settled

/-- What is kept ends the trimming, whatever comes after it. -/
theorem trimStart_append_cons {c : Char} (keeps : p c = false) (front s : List Char) :
    trimStart p (front ++ c :: s) = trimStart p front ++ c :: s := by
  rw [trimStart, List.dropWhile_append]
  split
  · next empty =>
    rw [trimStart, List.isEmpty_iff.1 empty, List.nil_append]
    exact trimStart_cons_of_neg keeps s
  · rfl

theorem trimStart_cons_of_pos {c : Char} (drops : p c = true) (s : List Char) :
    trimStart p (c :: s) = trimStart p s :=
  List.dropWhile_cons_of_pos drops

theorem getLast?_of_isSuffix {t : List Char} {c : Char} (ends : t <:+ s) (last : c ∈ t.getLast?) :
    c ∈ s.getLast? := by
  obtain ⟨rest, rfl⟩ := ends
  rw [List.getLast?_append, Option.mem_def.1 last]
  rfl

/-- The ends of a text are trimmed in any order. -/
theorem trimStart_trimEnd (p q : Char → Bool) (s : List Char) :
    trimStart p (trimEnd q s) = trimEnd q (trimStart p s) := by
  obtain ⟨tail, drops, split⟩ := exists_trimEnd_append q s
  have start : trimStart p s = if (trimStart p (trimEnd q s)).isEmpty then trimStart p tail
      else trimStart p (trimEnd q s) ++ tail := by
    conv => lhs; rw [← split]
    exact List.dropWhile_append
  have settled : trimEnd q (trimStart p (trimEnd q s)) = trimStart p (trimEnd q s) := by
    apply trimEnd_eq_self_iff.2
    exact fun c last => getLast?_trimEnd (getLast?_of_isSuffix (isSuffix_trimStart p _) last)
  rw [start]
  split
  · next empty =>
    have nothing : trimEnd q (trimStart p tail) = [] :=
      trimEnd_append_of_all (fun c mem => drops c ((isSuffix_trimStart p tail).mem mem)) []
    rw [List.isEmpty_iff.1 empty, nothing]
  · rw [trimEnd_append_of_all drops, settled]

theorem strip_eq_trimStart (ends : ∀ d ∈ s.getLast?, isBlank d = false) : strip s = trimStart isBlank s := by
  rw [strip, trim, ← trimStart_trimEnd, trimEnd_eq_self_iff.2 ends]

/-- A class of characters is trimmed with a larger one. -/
theorem trimStart_trimStart (within : ∀ c, p c = true → q c = true) (s : List Char) :
    trimStart q (trimStart p s) = trimStart q s := by
  induction s with
  | nil => rfl
  | cons c rest ih =>
    cases drops : p c with
    | false => rw [trimStart_cons_of_neg drops]
    | true => rw [trimStart_cons_of_pos drops, ih, trimStart_cons_of_pos (within c drops)]

theorem trimEnd_trimEnd (within : ∀ c, p c = true → q c = true) (s : List Char) :
    trimEnd q (trimEnd p s) = trimEnd q s := by
  have backwards := trimStart_trimStart within s.reverse
  rw [trimEnd, trimEnd, List.reverse_reverse, trimEnd]
  exact congrArg List.reverse backwards

end Ends

/-- A text without separators continues the last piece. -/
theorem pieces_append_of_none {tail : List Char} (none : ∀ c ∈ tail, p c = false) (s : List Char) :
    ∃ front last, pieces p s = front ++ [last] ∧ pieces p (s ++ tail) = front ++ [last ++ tail] := by
  induction s with
  | nil => exact ⟨[], [], rfl, pieces_of_none none⟩
  | cons c rest ih =>
    obtain ⟨front, last, before, after⟩ := ih
    rw [List.cons_append, pieces, pieces, before, after]
    split
    · exact ⟨[] :: front, last, rfl, rfl⟩
    · cases front with
      | nil => exact ⟨[], c :: last, rfl, rfl⟩
      | cons first more => exact ⟨(c :: first) :: more, last, rfl, rfl⟩

/-- A text has no words if there is nothing but white space in it. -/
theorem words_eq_nil_iff : words s = [] ↔ strip s = [] := by
  rw [words, List.filter_eq_nil_iff, strip, trim_eq_nil_iff]
  induction s with
  | nil => simp [pieces]
  | cons c rest ih =>
    rw [pieces, List.forall_mem_cons, ← ih]
    split
    · next blank => simp [blank]
    · next visible =>
      cases split : pieces isBlank rest with
      | nil => exact absurd split (pieces_ne_nil isBlank rest)
      | cons piece more => simp [visible]

theorem words_append_cons {c : Char} (blank : isBlank c = true) (before after : List Char) :
    words (before ++ c :: after) = words before ++ words after := by
  rw [words, pieces_append_cons blank, List.filter_append, words, words]

theorem words_of_none (none : ∀ c ∈ s, isBlank c = false) (filled : s ≠ []) : words s = [s] := by
  rw [words, pieces_of_none none]
  simp [filled]

end InboxAudit.Text
