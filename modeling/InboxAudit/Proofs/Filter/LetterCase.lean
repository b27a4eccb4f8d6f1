import InboxAudit.Proofs.Analysis.Replay
import InboxAudit.Proofs.Collections.Outcomes
import InboxAudit.Proofs.Mail.Headers
import InboxAudit.Proofs.Mail.ListId
import InboxAudit.Proofs.Text.LetterCase
import Mathlib.Data.List.Forall2
import Mathlib.Data.List.Induction

/-!
# Filters and the case of letters

Neither the criteria of a filter nor the headers of a message tell capital from small letters of ASCII.
Candidates and list identifiers are compared in lower case, and the marks that texts are split at and
stripped of are no letters (`Candidates.split_foldCase`, `normalize_foldCase`); keywords of a query are read
in any case, and its words are taken apart at a colon (`Query.toOption_parse_foldCase`). So filters that
differ in nothing else compile to the same matchers, and these hold for the same messages
(`rules_sameUpToCase`), in whichever order their headers stand. What keeps its case is the word that a query is
refused for.
-/

namespace InboxAudit.Filter.Candidates
set_option autoImplicit false

open InboxAudit.Text

theorem caseless_isSeparator : Caseless isSeparator := caseless_of_letters (by decide)

theorem caseless_isWrapper : Caseless isWrapper := caseless_of_letters (by decide)

theorem isOr_foldCase (s : List Char) : isOr (foldCase s) = isOr s := by
  rw [Bool.eq_iff_iff, isOr, isOr, sameAsciiCase_iff, sameAsciiCase_iff, foldCase_foldCase]

/-- The candidates do not show the case of the criterion. -/
theorem split_foldCase (raw : List Char) : split (foldCase raw) = split raw := by
  have cleaned : clean ∘ foldCase = clean := by
    funext part
    rw [Function.comp_apply, clean, trim_foldCase caseless_isWrapper, lowerCase_foldCase, clean]
  rw [split, pieces_foldCase caseless_isSeparator, List.map_map, cleaned, split]

theorem ofText_congr {a b : String} (same : SameText a b) : ofText a = ofText b := by
  rw [ofText, ofText, eq_of_sameAsciiCase split_foldCase same]

end InboxAudit.Filter.Candidates

namespace InboxAudit.Mail.ListId

open InboxAudit.Text

theorem caseless_isOpening : Caseless isOpening := caseless_of_letters (by decide)

theorem caseless_isClosing : Caseless isClosing := caseless_of_letters (by decide)

theorem caseless_isQuote : Caseless isQuote := caseless_of_letters (by decide)

theorem dropOpening_foldCase (s : List Char) : dropOpening (foldCase s) = foldCase (dropOpening s) := by
  cases s with
  | nil => rfl
  | cons c rest =>
    rw [foldCase_cons, dropOpening_cons, dropOpening_cons]
    simp only [toLower_eq_iff (d := '<') (by decide)]
    split <;> rfl

theorem dropClosing_foldCase (s : List Char) : dropClosing (foldCase s) = foldCase (dropClosing s) := by
  induction s using List.reverseRecOn with
  | nil => rfl
  | append_singleton s c =>
    have folded : foldCase (s ++ [c]) = foldCase s ++ [c.toLower] := by simp [foldCase]
    rw [folded, dropClosing_concat, dropClosing_concat]
    simp only [toLower_eq_iff (d := '>') (by decide)]
    split
    · rfl
    · exact folded.symm

theorem unwrap_foldCase (s : List Char) : unwrap (foldCase s) = foldCase (unwrap s) := by
  simp only [unwrap, trimStart_foldCase caseless_isOpening, trimEnd_foldCase caseless_isClosing,
    mem_foldCase_iff (d := '\n') (by decide), dropClosing_foldCase, dropOpening_foldCase]
  split <;> rfl

/-- The compared form of a list identifier does not show the case of the text. -/
theorem normalize_foldCase (raw : List Char) : normalize (foldCase raw) = normalize raw := by
  rw [normalize, strip_foldCase, unwrap_foldCase, trim_foldCase caseless_isQuote, lowerCase_foldCase,
    normalize]

end InboxAudit.Mail.ListId

namespace InboxAudit.Mail

open InboxAudit.Text

theorem listId_congr {a b : String} (same : SameText a b) : listId a = listId b := by
  rw [listId, listId, eq_of_sameAsciiCase ListId.normalize_foldCase same]

/-- Each header of one message is one of the other, in whatever order, their values equal up to the case of ASCII
letters. -/
structure Message.SameUpToCase (m m' : Message) : Prop where
  onward : ∀ h ∈ m.headers, ∃ h' ∈ m'.headers, h'.1 = h.1 ∧ SameText h.2 h'.2
  back : ∀ h' ∈ m'.headers, ∃ h ∈ m.headers, h.1 = h'.1 ∧ SameText h.2 h'.2

namespace Message.SameUpToCase

variable {m m' : Message} {name : String} {h : String × String}

theorem symm (same : m.SameUpToCase m') : m'.SameUpToCase m where
  onward h mem := by
    obtain ⟨k, listed, named, value⟩ := same.back h mem
    exact ⟨k, listed, named, value.symm⟩
  back h mem := by
    obtain ⟨k, listed, named, value⟩ := same.onward h mem
    exact ⟨k, listed, named, value.symm⟩

/-- What a look-up may read in one message it may read in the other. -/
theorem exists_entry (same : m.SameUpToCase m') (mem : h ∈ m.entriesOf name) :
    ∃ h' ∈ m'.entriesOf name, SameText h.2 h'.2 := by
  obtain ⟨listed, named⟩ := mem_entriesOf.1 mem
  obtain ⟨h', listed', same_name, value⟩ := same.onward h listed
  refine ⟨h', mem_entriesOf.2 ⟨listed', ?_⟩, value⟩
  rw [same_name]
  refine named.imp_right (And.imp_left fun all k mem' => ?_)
  obtain ⟨k₀, mem₀, same_name₀, -⟩ := same.back k mem'
  rw [← same_name₀]
  exact all k₀ mem₀

theorem header (same : m.SameUpToCase m') (agrees : m.AgreesOn SameText name) :
    SameText (m.header name) (m'.header name) := by
  have none {a b : Message} (same : a.SameUpToCase b) (nothing : b.entriesOf name = []) : a.entriesOf name = [] := by
    rw [List.eq_nil_iff_forall_not_mem]
    intro h mem
    obtain ⟨h', mem', -⟩ := same.exists_entry mem
    rw [nothing] at mem'
    cases mem'
  refine header_rel (by decide) ⟨none same.symm, none same⟩ fun h mem h' mem' => ?_
  obtain ⟨k, listed, value⟩ := same.symm.exists_entry mem'
  exact (agrees h mem k listed).trans value.symm

end Message.SameUpToCase

end InboxAudit.Mail

namespace InboxAudit.Filter

open InboxAudit.Mail (LabelCatalog Message)
open InboxAudit.Text

namespace Query

theorem words_foldCase (s : List Char) : words (foldCase s) = (words s).map foldCase := by
  have filled : (fun w : List Char => decide (w ≠ [])) ∘ foldCase = fun w => decide (w ≠ []) := by
    funext w
    simp
  rw [words, pieces_foldCase caseless_isBlank, List.filter_map, filled, words]

theorem queryWords_foldCase (query : List Char) :
    queryWords (foldCase query) = (queryWords query).map foldCase := by
  have trimmed : trim Candidates.isWrapper ∘ foldCase = foldCase ∘ trim Candidates.isWrapper :=
    funext (trim_foldCase Candidates.caseless_isWrapper)
  have kept : (fun w => decide (w ≠ []) && !Candidates.isOr w) ∘ foldCase =
      fun w => decide (w ≠ []) && !Candidates.isOr w := by
    funext w
    simp [Candidates.isOr_foldCase]
  rw [queryWords, words_foldCase, List.map_map, trimmed, ← List.map_map, List.filter_map, kept,
    queryWords]

theorem wordMatcher?_foldCase (word : List Char) : wordMatcher? (foldCase word) = wordMatcher? word := by
  have colon : Caseless fun c => decide (c = ':') := caseless_of_letters (by decide)
  rw [wordMatcher?, splitFirst?_foldCase colon, wordMatcher?]
  cases splitFirst? (fun c => decide (c = ':')) word with
  | none => rfl
  | some parts =>
    have keyword : (foldCase parts.1).map Char.toLower = parts.1.map Char.toLower :=
      foldCase_foldCase parts.1
    simp [keyword, listMatcher?, textMatcher?, Mail.listId, Mail.ListId.normalize_foldCase,
      Candidates.ofText, Candidates.split_foldCase]

theorem toOption_readWord (word : List Char) : (readWord word).toOption =
    if word.head? = some '-' then none else wordMatcher? word := by
  unfold readWord
  split
  · rfl
  · cases wordMatcher? word <;> rfl

theorem toOption_readWord_foldCase (word : List Char) :
    (readWord (foldCase word)).toOption = (readWord word).toOption := by
  have dash : (foldCase word).head? = some '-' ↔ word.head? = some '-' := by
    cases word with
    | nil => rfl
    | cons c rest => simp [toLower_eq_iff (d := '-') (by decide)]
  simp only [toOption_readWord, dash, wordMatcher?_foldCase]

theorem toOption_parse_foldCase (query : List Char) :
    (parse (String.ofList (foldCase query))).toOption = (parse (String.ofList query)).toOption := by
  have readWords (ws : List (List Char)) :
      ((ws.map foldCase).mapM readWord).toOption = (ws.mapM readWord).toOption := by
    have blind : (fun w => (readWord w).toOption) ∘ foldCase = fun w => (readWord w).toOption :=
      funext toOption_readWord_foldCase
    rw [toOption_mapM, toOption_mapM, List.mapM_map, blind]
  rw [parse, parse, String.toList_ofList, String.toList_ofList, queryWords_foldCase]
  cases queryWords query with
  | nil => rfl
  | cons w ws => exact readWords (w :: ws)

theorem toOption_parse_congr {a b : String} (same : SameText a b) :
    (parse a).toOption = (parse b).toOption := by
  simpa using eq_of_sameAsciiCase (f := fun s => (parse (String.ofList s)).toOption)
    toOption_parse_foldCase same

end Query

theorem stripText_eq_empty_congr {a b : String} (same : SameText a b) :
    stripText a = "" ↔ stripText b = "" := by
  have empty (s : String) : stripText s = "" ↔ foldCase (strip s.toList) = [] := by
    rw [stripText, foldCase_eq_nil_iff, String.ofList_eq_empty_iff]
  rw [empty, empty, ← strip_foldCase, ← strip_foldCase, sameAsciiCase_iff.1 same]

/-- The criteria are equal up to the case of ASCII letters. -/
structure Criteria.SameUpToCase (c c' : Criteria) : Prop where
  sender : SameText c.sender c'.sender
  recipient : SameText c.recipient c'.recipient
  subject : SameText c.subject c'.subject
  query : SameText c.query c'.query
  list : SameText c.list c'.list

/-- Criteria that are equal up to case have the same matchers, or none both. -/
theorem Criteria.SameUpToCase.toOption_matchers {c c' : Criteria} (same : c.SameUpToCase c') :
    c.matchers.toOption = c'.matchers.toOption := by
  have headers : c.headerMatchers = c'.headerMatchers := by
    simp only [headerMatchers, Query.textMatcher?, Query.listMatcher?,
      Candidates.ofText_congr same.sender, Candidates.ofText_congr same.recipient,
      Candidates.ofText_congr same.subject, Mail.listId_congr same.list]
  have query : c.queryMatchers.toOption = c'.queryMatchers.toOption := by
    simp only [queryMatchers, stripText_eq_empty_congr same.query]
    split
    · rfl
    · exact Query.toOption_parse_congr same.query
  have parts (c : Criteria) : c.matchers.toOption = c.queryMatchers.toOption.bind fun found =>
      if c.headerMatchers ++ found = [] then none else some (c.headerMatchers ++ found) := by
    unfold matchers
    cases c.queryMatchers with
    | error reason => rfl
    | ok found =>
      dsimp only [Except.toOption, Option.bind_some]
      cases c.headerMatchers ++ found <;> rfl
  rw [parts, parts, headers, query]

/-- No order of the headers shows in what tests read, but for the case of ASCII letters. -/
def IsClear (m : Message) : Prop := ∀ name ∈ readHeaders, m.AgreesOn SameText name

instance (m : Message) : Decidable (IsClear m) := inferInstanceAs (Decidable (∀ name ∈ _, _))

theorem isClear_iff {m : Message} : IsClear m ↔ ∀ name ∈ readHeaders, ∀ a b : Message,
    a.headers.Perm m.headers → b.headers.Perm m.headers → SameText (a.header name) (b.header name) :=
  forall₂_congr fun _ _ => (Message.forall_perm_header_iff (by decide)).symm

theorem isClear_of_nodup {m : Message} (distinct : (m.headers.map fun h => foldCase h.1.toList).Nodup) : IsClear m :=
  fun name _ => Message.agreesOn_of_nodup (fun _ => sameText_iff.2 rfl) distinct name

theorem holds_congr {m m' : Message} (same : m.SameUpToCase m') (clear : IsClear m) (t : Matcher) :
    t.holds m = t.holds m' := by
  apply Matcher.holds_congr
  · exact fun name read => eq_of_sameAsciiCase lowerCase_foldCase (same.header (clear name read))
  · exact Mail.listId_congr (same.header (clear "List-Id" (by decide)))

theorem Rule.isReplayable_eq (rule : Rule) : rule.isReplayable = rule.matchers.toOption.isSome := by
  rw [isReplayable]
  cases rule.matchers <;> rfl

theorem Rule.catches_eq (rule : Rule) (m : Message) :
    rule.catches m = rule.matchers.toOption.any fun matchers => holdsAll matchers m := by
  rw [catches]
  cases rule.matchers <;> rfl

/-- Filters whose criteria are equal up to the case of ASCII letters compile to rules of which, place by
place, both or none can be replayed, and which catch the same of two samples whose headers are equal up
to that case, in whatever orders they stand. Headers whose names differ in the case of letters alone must not
contradict each other where a test reads them: the order decides then which one is read. -/
theorem rules_sameUpToCase {e e' : Export} {sample sample' : List Message}
    (filters : List.Forall₂ (fun f f' => f.criteria.SameUpToCase f'.criteria) e.filters e'.filters)
    (messages : List.Forall₂ Message.SameUpToCase sample sample') (clear : ∀ m ∈ sample, IsClear m)
    (catalog : LabelCatalog) :
    List.Forall₂ (fun r r' => r.isReplayable = r'.isReplayable ∧
        List.Forall₂ (fun m m' => r.catches m = r'.catches m') sample sample')
      (e.rules catalog) (e'.rules catalog) := by
  rw [Export.rules, Export.rules, List.forall₂_map_left_iff, List.forall₂_map_right_iff]
  apply filters.imp
  intro f f' same
  have matchers : (f.toRule (labelNames e catalog)).matchers.toOption =
      (f'.toRule (labelNames e' catalog)).matchers.toOption := same.toOption_matchers
  constructor
  · rw [Rule.isReplayable_eq, matchers, Rule.isReplayable_eq]
  · apply ((List.forall₂_and_left _ _).2 ⟨clear, messages⟩).imp
    rintro m m' ⟨clear, sameMessage⟩
    have holds (ms : List Matcher) : holdsAll ms m = holdsAll ms m' := by
      simp only [holdsAll, holds_congr sameMessage clear]
    rw [Rule.catches_eq, matchers, Rule.catches_eq]
    simp only [holds]

/-- A filter on a sender, a subject and a list, the last in a query. -/
def teamFilter (sender subject query : String) : Filter :=
  ⟨"", "", ⟨sender, "", subject, query, ""⟩, .empty⟩

/-- A message to a list. -/
def teamMessage (sender subject list : String) : Message :=
  ⟨"m1", [], [("From", sender), ("Subject", subject), ("List-Id", list)]⟩

/-- The capital sigma ends a word on both sides, whatever the case of the letter before it. -/
theorem rules_sameUpToCase_sigma :
    let e : Export := ⟨[teamFilter "ANN Or bob" "AΣ" "LIST:<Team> OR"], []⟩
    let e' : Export := ⟨[teamFilter "ann oR Bob" "aΣ" "list:<tEAM> or"], []⟩
    let m := teamMessage "Ann@x.example" "xAΣ" "<TEAM.x>"
    let m' : Message := ⟨"m1", [], [("List-Id", "<team.X>"), ("From", "aNN@X.example"), ("Subject", "XaΣ")]⟩
    (List.Forall₂ (fun f f' => f.criteria.SameUpToCase f'.criteria) e.filters e'.filters ∧
        List.Forall₂ Message.SameUpToCase [m] [m'] ∧ ∀ m₀ ∈ [m], IsClear m₀) ∧
      List.Forall₂ (fun r r' => r.isReplayable = r'.isReplayable ∧
          List.Forall₂ (fun m m' => r.catches m = r'.catches m') [m] [m'])
        (e.rules .empty) (e'.rules .empty) ∧
      (e'.rules .empty).map (·.catches m') = [true] := by
  intro e e' m m'
  have filters : List.Forall₂ (fun f f' => f.criteria.SameUpToCase f'.criteria) e.filters e'.filters :=
    .cons ⟨by decide, by decide, by decide, by decide, by decide⟩ .nil
  have message : m.SameUpToCase m' := ⟨by decide, by decide⟩
  have messages : List.Forall₂ Message.SameUpToCase [m] [m'] := .cons message .nil
  have clear : ∀ m₀ ∈ [m], IsClear m₀ := List.forall_mem_singleton.2 (isClear_of_nodup (by decide))
  exact ⟨⟨filters, messages, clear⟩, rules_sameUpToCase filters messages clear .empty, by decide +kernel⟩

/-- Of two headers that contradict each other the one is read that stands first. -/
example :
    let rule := (teamFilter "ann" "" "").toRule []
    let m : Message := ⟨"m1", [], [("FROM", "ann"), ("from", "bob")]⟩
    let m' : Message := ⟨"m1", [], [("from", "bob"), ("FROM", "ann")]⟩
    m'.headers.Perm m.headers ∧ ¬ IsClear m ∧ rule.catches m = true ∧ rule.catches m' = false := by
  decide +kernel

end InboxAudit.Filter
