import InboxAudit.Proofs.Analysis.Ranking
import InboxAudit.Proofs.Json.Strings
import InboxAudit.Proofs.Mail.Domain
import InboxAudit.Proofs.Mail.ListId

/-!
# What the suggested snippets say

A snippet is Jsonnet: an object whose filter has one string literal. The value is written between
the quotes as it is, so the literal denotes it and ends where it was meant to end exactly if the
value holds neither a quote nor a backslash (`literal?_eq_some_iff`). Both come only from the
headers of the sample (`archiveSnippets_faithful_iff`).
-/

namespace InboxAudit.Jsonnet
set_option autoImplicit false

open Json (Part hex4? joinParts joinParts_chars)

/-- What an escape of one letter stands for: as in JSON, and the single quote. -/
def shortEscape? (c : Char) : Option Char :=
  if c = '\x27' then some c else Json.shortEscape? (some c)

/-- The parts of a string literal after its opening quote, up to the first quote without a backslash
before it, and the text after that quote. -/
def literalParts : List Char → Option (List Part × List Char)
  | [] => none
  | '"' :: rest => some ([], rest)
  | '\\' :: 'u' :: a :: b :: c :: d :: rest =>
    match hex4? (some a) (some b) (some c) (some d) with
    | none => none
    | some unit => (literalParts rest).map fun (parts, rest) => (Part.ofUnit unit :: parts, rest)
  | '\\' :: e :: rest =>
    match shortEscape? e with
    | none => none
    | some c => (literalParts rest).map fun (parts, rest) => (.char c :: parts, rest)
  | c :: rest =>
    if c = '\\' then none
    else (literalParts rest).map fun (parts, rest) => (.char c :: parts, rest)

/-- What a string literal denotes after its opening quote, and the text after it. -/
def literal? (s : List Char) : Option (List Char × List Char) :=
  (literalParts s).bind fun read => (joinParts read.1).map (·, read.2)

/-- A text that stands for itself between double quotes. -/
def IsPlain (s : List Char) : Prop := '"' ∉ s ∧ '\\' ∉ s

instance (s : List Char) : Decidable (IsPlain s) := inferInstanceAs (Decidable (_ ∧ _))

theorem isPlain_cons {c : Char} {s : List Char} :
    IsPlain (c :: s) ↔ (c ≠ '"' ∧ c ≠ '\\') ∧ IsPlain s := by
  simp only [IsPlain, List.mem_cons, not_or, ne_comm (b := c), ne_eq]
  tauto

theorem literalParts_plain {s : List Char} (plain : IsPlain s) (rest : List Char) :
    literalParts (s ++ '"' :: rest) = some (s.map .char, rest) := by
  induction s with
  | nil => rfl
  | cons c s ih =>
    obtain ⟨⟨noQuote, noEscape⟩, tail⟩ := isPlain_cons.1 plain
    simp [literalParts, noEscape, ih tail]

theorem length_joinParts_le {parts : List Part} {s : List Char} (h : joinParts parts = some s) :
    s.length ≤ parts.length := by
  fun_induction joinParts parts generalizing s with
  | case1 => cases h; exact Nat.le_refl _
  | case2 c rest ih =>
    obtain ⟨more, joined, rfl⟩ := Option.map_eq_some_iff.1 h
    exact Nat.succ_le_succ (ih joined)
  | case3 high low rest pair ih =>
    obtain ⟨more, joined, rfl⟩ := Option.map_eq_some_iff.1 h
    exact Nat.succ_le_succ (Nat.le_succ_of_le (ih joined))
  | case4 => cases h
  | case5 => cases h
  | case6 => cases h

/-- A literal has no more parts than characters, and fewer if it holds an escape. -/
theorem exists_body_of_literalParts {s rest : List Char} {parts : List Part}
    (h : literalParts s = some (parts, rest)) :
    ∃ body, s = body ++ '"' :: rest ∧ parts.length ≤ body.length ∧
      (parts.length = body.length → IsPlain body) := by
  fun_induction literalParts s generalizing parts rest with
  | case1 => cases h
  | case2 text =>
    cases h
    exact ⟨[], rfl, Nat.le_refl _, fun _ => ⟨List.not_mem_nil, List.not_mem_nil⟩⟩
  | case3 => cases h
  | case4 a b c d text unit digits ih =>
    obtain ⟨⟨more, rest'⟩, read, eq⟩ := Option.map_eq_some_iff.1 h
    cases eq
    obtain ⟨body, rfl, bound, -⟩ := ih read
    refine ⟨'\\' :: 'u' :: a :: b :: c :: d :: body, rfl, ?_, fun same => ?_⟩ <;>
      simp only [List.length_cons] at * <;> omega
  | case5 => cases h
  | case6 e text notU c escape ih =>
    obtain ⟨⟨more, rest'⟩, read, eq⟩ := Option.map_eq_some_iff.1 h
    cases eq
    obtain ⟨body, rfl, bound, -⟩ := ih read
    refine ⟨'\\' :: e :: body, rfl, ?_, fun same => ?_⟩ <;>
      simp only [List.length_cons] at * <;> omega
  | case7 => cases h
  | case8 c text noQuote _ _ noEscape ih =>
    obtain ⟨⟨more, rest'⟩, read, eq⟩ := Option.map_eq_some_iff.1 h
    cases eq
    obtain ⟨body, rfl, bound, plain⟩ := ih read
    refine ⟨c :: body, rfl, Nat.succ_le_succ bound, fun same => ?_⟩
    exact isPlain_cons.2 ⟨⟨noQuote, noEscape⟩, plain (Nat.succ.inj same)⟩

/-- A text between quotes denotes itself exactly if it holds neither a quote nor a backslash. -/
theorem literal?_eq_some_iff {s : List Char} (rest : List Char) :
    literal? (s ++ '"' :: rest) = some (s, rest) ↔ IsPlain s := by
  constructor
  · intro h
    obtain ⟨⟨parts, rest'⟩, read, denoted⟩ := Option.bind_eq_some_iff.1 h
    obtain ⟨s', joined, eq⟩ := Option.map_eq_some_iff.1 denoted
    cases eq
    obtain ⟨body, split, bound, plain⟩ := exists_body_of_literalParts read
    obtain rfl : s = body := List.append_cancel_right split
    exact plain (Nat.le_antisymm bound (length_joinParts_le joined))
  · intro plain
    rw [literal?, literalParts_plain plain, Option.bind_some, joinParts_chars, Option.map_some]

end InboxAudit.Jsonnet

namespace InboxAudit.Analysis

open InboxAudit.Jsonnet (IsPlain isPlain_cons literal? literal?_eq_some_iff)
open InboxAudit.Mail (Message)

/-- A suggested filter: its one criterion and the value of that. -/
structure Suggestion where
  criterion : String
  value : String
  deriving Repr, DecidableEq

/-- The snippet of a suggestion. -/
def Suggestion.text (s : Suggestion) : String := snippet s.criterion s.value

/-- The suggestion that archives a list. -/
def listSuggestion (row : Standing) : Suggestion := ⟨"list", row.key⟩

/-- The suggestion that archives the senders of a domain. -/
def senderSuggestion (row : Standing) : Suggestion := ⟨"from", "*@" ++ row.key⟩

/-- The suggestions, lists before senders, ten at most. -/
def suggestions (lists senders : List Standing) : List Suggestion :=
  (lists.map listSuggestion ++ senders.map senderSuggestion).take 10

theorem archiveSnippets_eq (lists senders : List Standing) :
    archiveSnippets lists senders = (suggestions lists senders).map Suggestion.text := by
  simp only [archiveSnippets, suggestions, List.map_take, List.map_append, List.map_map]
  rfl

/-- A snippet up to the opening quote of the value. -/
def snippetHead (criterion : String) : List Char :=
  ("\x7b\n  filter: \x7b " ++ criterion ++ ": \"").toList

/-- A snippet after the closing quote of the value. -/
def snippetTail : List Char := " \x7d,\n  actions: \x7b archive: true, markRead: true \x7d,\n\x7d".toList

/-- The snippet is the object that was meant: after its head the string literal denotes the value,
and after the literal there is nothing but the tail. -/
def Suggestion.IsFaithful (s : Suggestion) : Prop :=
  ∃ after, s.text.toList = snippetHead s.criterion ++ after ∧
    literal? after = some (s.value.toList, snippetTail)

theorem snippet_toList (criterion value : String) :
    (snippet criterion value).toList =
      snippetHead criterion ++ (value.toList ++ '"' :: snippetTail) := by
  have closing : "\" \x7d,\n  actions: \x7b archive: true, markRead: true \x7d,\n\x7d".toList =
      '"' :: snippetTail := by decide
  have parts (a b c : String) : (a ++ b ++ c).toList = a.toList ++ (b.toList ++ c.toList) := by simp
  exact (parts _ _ _).trans (congrArg (fun rest => snippetHead criterion ++ (value.toList ++ rest))
    closing)

theorem Suggestion.isFaithful_iff {s : Suggestion} : s.IsFaithful ↔ IsPlain s.value.toList := by
  rw [← literal?_eq_some_iff snippetTail]
  constructor
  · rintro ⟨after, text, read⟩
    rw [Suggestion.text, snippet_toList] at text
    rwa [List.append_cancel_left text]
  · exact fun read => ⟨_, by rw [Suggestion.text, snippet_toList], read⟩

/-- A quote ends the literal: it denotes what stands before, and the rest of the value is code. -/
theorem Suggestion.literal?_of_quote {s : Suggestion} {before after : List Char}
    (split : s.value.toList = before ++ '"' :: after) (plain : IsPlain before) :
    literal? (s.value.toList ++ '"' :: snippetTail) =
      some (before, after ++ '"' :: snippetTail) := by
  rw [split, List.append_assoc, List.cons_append]
  exact (literal?_eq_some_iff _).2 plain

theorem mem_header_of_mem_listKey {top : Nat} {sample : List Message} {row : Standing}
    (listed : row ∈ topLists top sample) {c : Char} (ascii : c.toNat < 0x80)
    (noLetter : c.isAlpha = false) (mem : c ∈ row.key.toList) :
    ∃ m ∈ sample, c ∈ (m.header "List-Id").toList := by
  obtain ⟨-, m, inSample, key⟩ := exists_message_of_mem_ranking listed
  rw [← key, messageList, Mail.listId, String.toList_ofList] at mem
  exact ⟨m, inSample, Mail.ListId.mem_of_mem_normalize ascii noLetter mem⟩

theorem mem_header_of_mem_senderKey {top : Nat} {sample : List Message} {row : Standing}
    (listed : row ∈ topSenders top sample) {c : Char} (ascii : c.toNat < 0x80)
    (noLetter : c.isAlpha = false) (mem : c ∈ row.key.toList) :
    ∃ m ∈ sample, c ∈ (m.header "From").toList := by
  obtain ⟨-, m, inSample, key⟩ := exists_message_of_mem_ranking listed
  rw [← key, messageDomain, Mail.senderDomain, String.toList_ofList] at mem
  exact ⟨m, inSample, Mail.mem_of_mem_domainOf ascii noLetter mem⟩

/-- The headers that suggestions are made from hold neither a quote nor a backslash. -/
def HeadersPlain (sample : List Message) : Prop :=
  ∀ m ∈ sample, IsPlain (m.header "List-Id").toList ∧ IsPlain (m.header "From").toList

instance (sample : List Message) : Decidable (HeadersPlain sample) :=
  inferInstanceAs (Decidable (∀ m ∈ sample, _ ∧ _))

theorem isPlain_of_mem_suggestions {top : Nat} {sample : List Message}
    (plain : HeadersPlain sample) {s : Suggestion}
    (mem : s ∈ suggestions (topLists top sample) (topSenders top sample)) :
    IsPlain s.value.toList := by
  rcases List.mem_append.1 (List.mem_of_mem_take mem) with mem | mem
  · obtain ⟨row, listed, rfl⟩ := List.mem_map.1 mem
    constructor
    · intro quote
      obtain ⟨m, inSample, held⟩ := mem_header_of_mem_listKey listed (by decide) (by decide) quote
      exact (plain m inSample).1.1 held
    · intro escape
      obtain ⟨m, inSample, held⟩ := mem_header_of_mem_listKey listed (by decide) (by decide) escape
      exact (plain m inSample).1.2 held
  · obtain ⟨row, listed, rfl⟩ := List.mem_map.1 mem
    have value : (senderSuggestion row).value.toList = '*' :: '@' :: row.key.toList := by
      simp [senderSuggestion]
    rw [value, isPlain_cons, isPlain_cons]
    refine ⟨by decide, by decide, fun quote => ?_, fun escape => ?_⟩
    · obtain ⟨m, inSample, held⟩ := mem_header_of_mem_senderKey listed (by decide) (by decide) quote
      exact (plain m inSample).2.1 held
    · obtain ⟨m, inSample, held⟩ := mem_header_of_mem_senderKey listed (by decide) (by decide) escape
      exact (plain m inSample).2.2 held

/-- The suggested snippets are those of the suggestions. Each says what it means exactly if its value
holds neither a quote nor a backslash, with a quote the literal ends there, and only headers with
such a character lead to such a value. -/
theorem archiveSnippets_faithful_iff (top : Nat) (sample : List Message) :
    let suggested := suggestions (topLists top sample) (topSenders top sample)
    archiveSnippets (topLists top sample) (topSenders top sample) =
        suggested.map Suggestion.text ∧
      (∀ s ∈ suggested, (s.IsFaithful ↔ IsPlain s.value.toList) ∧
        ∀ before after, s.value.toList = before ++ '"' :: after → IsPlain before →
          literal? (s.value.toList ++ '"' :: snippetTail) =
            some (before, after ++ '"' :: snippetTail)) ∧
      (HeadersPlain sample → ∀ s ∈ suggested, s.IsFaithful) := by
  intro suggested
  refine ⟨archiveSnippets_eq _ _, fun s _ => ⟨s.isFaithful_iff, ?_⟩, fun plain s mem => ?_⟩
  · intro before after split plain
    exact s.literal?_of_quote split plain
  · exact s.isFaithful_iff.2 (isPlain_of_mem_suggestions plain mem)

theorem archiveSnippets_faithful_newsletter :
    let sample := [listMessage "Weekly <News.example.org>" "Ann <ann@mail.example.org>"]
    HeadersPlain sample ∧
      ∀ s ∈ suggestions (topLists 5 sample) (topSenders 5 sample), s.IsFaithful := by
  intro sample
  have plain : HeadersPlain sample := by decide
  exact ⟨plain, (archiveSnippets_faithful_iff 5 sample).2.2 plain⟩

/-- A quote inside a list identifier ends the literal of the suggested snippet. -/
theorem archiveSnippets_quoted_list :
    let sample := [listMessage "<a\"b>" ""]
    ¬ ∀ s ∈ suggestions (topLists 5 sample) (topSenders 5 sample), s.IsFaithful := by
  intro sample faithful
  have listed : (⟨"list", "a\"b"⟩ : Suggestion) ∈
      suggestions (topLists 5 sample) (topSenders 5 sample) := by
    rw [topLists, topSenders, ranking_singleton, ranking_singleton]
    decide
  have plain := Suggestion.isFaithful_iff.1 (faithful _ listed)
  exact absurd plain (by decide)

end InboxAudit.Analysis
