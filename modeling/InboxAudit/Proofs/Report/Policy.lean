import InboxAudit.Proofs.Text.LetterCase
import InboxAudit.Proofs.Text.Marks
import InboxAudit.Proofs.Text.Parts
import InboxAudit.Settings.Check

/-!
# Failure policies

A token of a policy means a kind of finding if it is the word of the kind in any case, with white space around it
or not (`FailOn.IsMeantBy`). Settings are usable with exactly the tokens that mean a kind, and a lint run fails for
these and no others. A policy on one line is cut at its commas before the tokens are made canonical, which changes
none of their meanings (`FailOn.ofToken?_canonical`), so it fails the runs that its parts fail
(`LintReport.policy_exact`).
-/

namespace InboxAudit
set_option autoImplicit false

open Text

namespace FailOn

/-- The token is the word of the kind in any case of its letters, with white space around it or not. -/
def IsMeantBy (kind : FailOn) (token : String) : Prop :=
  ∃ front word back, token.toList = front ++ word ++ back ∧ (∀ c ∈ front, isBlank c = true) ∧
    (∀ c ∈ back, isBlank c = true) ∧ sameAsciiCase word kind.token.toList = true

/-- The parts of a policy on one line, between its commas. -/
def commaParts (policy : String) : List String := (pieces (· = ',') policy.toList).map String.ofList

variable {kind : FailOn} {token : String}

theorem token_plain (kind : FailOn) : ∀ d ∈ kind.token.toList, IsLower d ∧ d.toNat < 0x80 ∧ d ≠ 'k' := by
  have all : kind.token.toList.all (fun d => IsLower d ∧ d.toNat < 0x80 ∧ d ≠ 'k') = true := by
    cases kind <;> decide
  simpa only [List.all_eq_true, decide_eq_true_eq] using all

theorem isBlank_eq_false_of_word {word : List Char} (same : sameAsciiCase word kind.token.toList = true) :
    ∀ c ∈ word, isBlank c = false := by
  have solid : (foldCase kind.token.toList).all (!isBlank ·) = true := by cases kind <;> decide
  intro c mem
  rw [← caseless_isBlank]
  have listed : c.toLower ∈ foldCase kind.token.toList := sameAsciiCase_iff.1 same ▸ List.mem_map_of_mem mem
  simpa using List.all_eq_true.1 solid _ listed

theorem isMeantBy_iff : kind.IsMeantBy token ↔ sameAsciiCase (strip token.toList) kind.token.toList = true := by
  constructor
  · rintro ⟨front, word, back, text, before, after, same⟩
    have solid := isBlank_eq_false_of_word same
    have settled : trim isBlank word = word :=
      trim_eq_self_iff.2 ⟨fun c first => solid c (List.mem_of_head? first),
        fun c last => solid c (List.mem_of_mem_getLast? last)⟩
    rwa [strip, text, trim_append_append before after settled]
  · intro same
    obtain ⟨front, back, before, after, text⟩ := exists_append_trim_append isBlank token.toList
    exact ⟨front, _, back, text, before, after, same⟩

theorem canonical_eq_token_iff : canonical token = kind.token ↔ kind.IsMeantBy token := by
  rw [isMeantBy_iff, ← lowerCase_eq_iff kind.token_plain, canonical, ← String.toList_inj, String.toList_ofList]

theorem ofToken?_eq_some_iff : ofToken? token = some kind ↔ kind.IsMeantBy token := by
  rw [← canonical_eq_token_iff, ofToken?]
  constructor
  · intro found
    have named := List.find?_some found
    exact (of_decide_eq_true named).symm
  · intro same
    rw [same]
    cases kind <;> decide

theorem isSome_ofToken?_iff : (ofToken? token).isSome = true ↔ ∃ kind : FailOn, kind.IsMeantBy token := by
  simp only [Option.isSome_iff_exists, ofToken?_eq_some_iff]

/-- No token that means a kind has a comma in it. -/
theorem IsMeantBy.comma_not_mem (meant : kind.IsMeantBy token) : ',' ∉ token.toList := by
  obtain ⟨front, word, back, text, before, after, same⟩ := meant
  have none : ',' ∉ word := not_mem_of_sameAsciiCase same (by cases kind <;> decide)
  have solid : isBlank ',' = false := by decide
  rw [text]
  intro comma
  rcases List.mem_append.1 comma with comma | comma
  · rcases List.mem_append.1 comma with comma | comma
    · exact Bool.false_ne_true (solid.symm.trans (before _ comma))
    · exact none comma
  · exact Bool.false_ne_true (solid.symm.trans (after _ comma))

/-- A canonical token has no white space left at its ends: small forms of other characters are none. -/
theorem strip_lowerCase_strip (s : List Char) : strip (lowerCase (strip s)) = lowerCase (strip s) := by
  refine trim_eq_self_iff.2 ⟨fun c first => ?_, fun c last => ?_⟩
  · rw [Bool.eq_false_iff]
    intro blank
    have stood := (isMark_of_isBlank blank).head?_lowerCase first
    exact absurd (head?_trim stood) (by simp [blank])
  · rw [Bool.eq_false_iff]
    intro blank
    have stood := (isMark_of_isBlank blank).getLast?_lowerCase last
    exact absurd (getLast?_trim stood) (by simp [blank])

theorem canonical_canonical (token : String) : canonical (canonical token) = canonical token := by
  rw [canonical, canonical, String.toList_ofList, strip_lowerCase_strip, lowerCase_lowerCase]

theorem ofToken?_canonical (token : String) : ofToken? (canonical token) = ofToken? token := by
  rw [ofToken?, canonical_canonical, ofToken?]

theorem parsePolicy_eq (policy : String) :
    parsePolicy policy = ((commaParts policy).map canonical).filter (· ≠ "") := by
  rw [parsePolicy, commaParts, List.map_map]
  rfl

end FailOn

/-- The check of a lint section passes for the tokens that mean a kind. -/
theorem Settings.Linting.fault?_eq_none_iff {l : Settings.Linting} :
    l.fault? = none ↔ ∀ token ∈ l.failOn, ∃ kind : FailOn, kind.IsMeantBy token := by
  simp only [fault?, Option.map_eq_none_iff, List.find?_eq_none, Option.isNone_iff_eq_none,
    ← FailOn.isSome_ofToken?_iff, Option.isSome_iff_ne_none, ne_eq]

namespace LintReport

open FailOn (IsMeantBy commaParts parsePolicy canonical ofToken? ofToken?_eq_some_iff)

theorem fails_iff {r : LintReport} {policy : List String} :
    r.fails policy = true ↔ ∃ token ∈ policy, ∃ kind : FailOn, kind.IsMeantBy token ∧ r.has kind = true := by
  simp only [fails, List.any_eq_true, Option.any_eq_true, ofToken?_eq_some_iff]

theorem fails_parsePolicy (r : LintReport) (policy : String) :
    r.fails (parsePolicy policy) = r.fails (commaParts policy) := by
  have empty : ofToken? "" = none := by decide
  rw [FailOn.parsePolicy_eq, fails, fails, List.any_filter, List.any_map]
  refine List.any_congr rfl fun token => ?_
  rw [Function.comp_apply, FailOn.ofToken?_canonical]
  -- A token that is left out is not one that means a kind.
  by_cases blank : canonical token = ""
  · rw [← FailOn.ofToken?_canonical, blank, empty]
    rfl
  · rw [decide_eq_true blank, Bool.true_and]

theorem commaParts_intercalate {policy : List String} (filled : policy ≠ [])
    (meant : ∀ token ∈ policy, ∃ kind : FailOn, kind.IsMeantBy token) :
    commaParts (",".intercalate policy) = policy := by
  refine ofList_pieces_intercalate rfl filled fun token listed => ?_
  obtain ⟨kind, meant⟩ := meant token listed
  exact meant.comma_not_mem

/-- A policy of tokens that mean kinds fails the same runs when it is written on one line. -/
theorem fails_parsePolicy_intercalate (r : LintReport) {policy : List String}
    (meant : ∀ token ∈ policy, ∃ kind : FailOn, kind.IsMeantBy token) :
    r.fails (parsePolicy (",".intercalate policy)) = r.fails policy := by
  rcases List.eq_nil_or_concat policy with rfl | ⟨front, last, rfl⟩
  · rfl
  · rw [fails_parsePolicy, commaParts_intercalate (by simp) meant]

end LintReport

end InboxAudit
