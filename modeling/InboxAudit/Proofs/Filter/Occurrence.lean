import InboxAudit.Proofs.Filter.Criteria
import InboxAudit.Proofs.Text.LetterCase
import InboxAudit.Proofs.Text.Sigma

/-!
# Parts of a criterion that stand in a header

A candidate is the lower-case form of a part of the criterion (`Candidates.lowerCase_mem_split`), and it is looked
for in the lower-case form of the header. So a part that stands in the header as it is written is found, unless one
of its capital sigmas ends a word in the one text and not in the other (`written_part_found_iff`). Then the two
forms differ, and the test may fail (`written_part_missed`).
-/

namespace InboxAudit.Filter
set_option autoImplicit false

open InboxAudit.Mail (Message)
open InboxAudit.Text

namespace Candidates

/-- A part of a criterion as it is written: what stands between separators without the wrappers around it, if this is
some text other than the word `or`. -/
structure IsPart (part : List Char) (raw : String) : Prop where
  stands : ∃ run, IsRun isSeparator run raw.toList ∧ trim isWrapper run = part
  filled : part ≠ []
  noOr : isOr part = false

/-- The word `or` is told by its lower-case form. -/
theorem isOr_iff {s : List Char} : isOr s = true ↔ lowerCase s = ['o', 'r'] := by
  have plain : ∀ d ∈ ['o', 'r'], IsLower d ∧ d.toNat < 0x80 ∧ d ≠ 'k' :=
    List.forall_mem_cons.2 ⟨by decide, List.forall_mem_singleton.2 (by decide)⟩
  rw [lowerCase_eq_iff plain, isOr]

theorem isOr_lowerCase (s : List Char) : isOr (lowerCase s) = isOr s := by
  rw [Bool.eq_iff_iff, isOr_iff, isOr_iff, lowerCase_lowerCase]

/-- Each part of a criterion is a candidate in lower case. -/
theorem lowerCase_mem_split {part : List Char} {raw : String} (listed : IsPart part raw) :
    lowerCase part ∈ split raw.toList := by
  obtain ⟨⟨run, stands, rfl⟩, filled, noOr⟩ := listed
  refine mem_split_iff.2 ⟨⟨run, stands.mem_pieces, rfl⟩, lowerCase_eq_nil_iff.not.2 filled, ?_⟩
  rw [isOr_lowerCase, noOr]

end Candidates

/-- A message with one header, which is searched for candidates. -/
def fieldMessage (field : Field) (value : String) : Message := ⟨"m1", [], [(field.header, value)]⟩

theorem header_fieldMessage (field : Field) (value : String) :
    (fieldMessage field value).header field.header = value := by
  simp [fieldMessage, Message.header, Table.get?]

/-- A part of a criterion is found where it stands in a header, if each of its capital sigmas ends a word there
exactly if it does so in the part alone; it is found wherever it stands between words. It is found wherever it stands
at all if it has no capital sigma whose form depends on the place, and a part that is the only candidate has to be of
this kind for that. -/
theorem written_part_found_iff {raw : String} {part : List Char} (listed : Candidates.IsPart part raw) :
    (∀ (field : Field) (m : Message) (before after : List Char),
      (m.header field.header).toList = before ++ part ++ after → KeepsSigmas before.reverse part after →
        (Matcher.text field (Candidates.ofText raw)).holds m = true) ∧
    (∀ (field : Field) (m : Message) (before after : List Char),
      (m.header field.header).toList = before ++ part ++ after →
        startsCased before.reverse = false → startsCased after = false →
          (Matcher.text field (Candidates.ofText raw)).holds m = true) ∧
    (¬ HasOpenSigma part → ∀ (field : Field) (m : Message), part <:+: (m.header field.header).toList →
      (Matcher.text field (Candidates.ofText raw)).holds m = true) ∧
    (Candidates.split raw.toList = [lowerCase part] →
      (∀ (field : Field) (m : Message), part <:+: (m.header field.header).toList →
        (Matcher.text field (Candidates.ofText raw)).holds m = true) → ¬ HasOpenSigma part) := by
  have found (field : Field) (m : Message)
      (occurs : lowerCase part <:+: lowerCase (m.header field.header).toList) :
      (Matcher.text field (Candidates.ofText raw)).holds m = true :=
    Matcher.text_holds_iff.2 ⟨lowerCase part, Candidates.lowerCase_mem_split listed, occurs⟩
  have kept (field : Field) (m : Message) (before after : List Char)
      (stands : (m.header field.header).toList = before ++ part ++ after)
      (keeps : KeepsSigmas before.reverse part after) :
      (Matcher.text field (Candidates.ofText raw)).holds m = true := by
    apply found
    rw [stands, lowerCase_append, (lowerBetween_eq_iff _ _ _).2 keeps]
    exact List.infix_append _ _ _
  refine ⟨kept, ?_, ?_, ?_⟩
  · intro field m before after stands uncasedBefore uncasedAfter
    exact kept field m before after stands (keepsSigmas_of_startsCased uncasedBefore uncasedAfter)
  · intro closed field m stands
    exact found field m (lowerCase_infix_iff.2 closed _ stands)
  · intro alone always
    rw [← lowerCase_infix_iff]
    intro text stands
    have header : ((fieldMessage .subject (String.ofList text)).header Field.subject.header).toList = text := by
      rw [header_fieldMessage, String.toList_ofList]
    have holds := always .subject (fieldMessage .subject (String.ofList text)) (by rwa [header])
    obtain ⟨c, mem, occurs⟩ := Matcher.text_holds_iff.1 holds
    rw [alone, List.mem_singleton] at mem
    rwa [header, mem] at occurs

/-- The last sigma ends a word in the part and in the header, where the part stands between words. -/
theorem written_part_found_between_words :
    let raw := "x, (\"ΟΔΟΣ\") or"
    let part := "ΟΔΟΣ".toList
    let m := fieldMessage .subject "Νέα ΟΔΟΣ, 2"
    Candidates.IsPart part raw ∧ part <:+: (m.header Field.subject.header).toList ∧
      (Matcher.text .subject (Candidates.ofText raw)).holds m = true := by
  intro raw part m
  have run : IsRun Candidates.isSeparator "(\"ΟΔΟΣ\")".toList raw.toList :=
    isRun_of_all (by decide +kernel) (show _ = "x, ".toList ++ _ ++ " or".toList by decide +kernel)
      (by decide +kernel) (by decide +kernel)
  have listed : Candidates.IsPart part raw :=
    ⟨⟨_, run, by decide +kernel⟩, by decide +kernel, by decide +kernel⟩
  have stands : (m.header Field.subject.header).toList = "Νέα ".toList ++ part ++ ", 2".toList := by
    decide +kernel
  have found := (written_part_found_iff listed).2.1 .subject m _ _ stands (by decide +kernel)
    (by decide +kernel)
  exact ⟨listed, ⟨_, _, stands.symm⟩, found⟩

/-- In the longer word the sigma is not at the end, so the candidate with a final sigma is not found there. -/
theorem written_part_missed :
    Candidates.IsPart "ΟΔΟΣ".toList "ΟΔΟΣ" ∧
      "ΟΔΟΣ".toList <:+: ((fieldMessage .subject "ΟΔΟΣΤΡΩΜΑ").header Field.subject.header).toList ∧
      (Matcher.text .subject (Candidates.ofText "ΟΔΟΣ")).holds (fieldMessage .subject "ΟΔΟΣΤΡΩΜΑ") = false := by
  have run : IsRun Candidates.isSeparator "ΟΔΟΣ".toList "ΟΔΟΣ".toList :=
    isRun_of_all (by decide +kernel) (show _ = [] ++ _ ++ [] by decide +kernel) (by decide +kernel)
      (by decide +kernel)
  have listed : Candidates.IsPart "ΟΔΟΣ".toList "ΟΔΟΣ" :=
    ⟨⟨_, run, by decide +kernel⟩, by decide +kernel, by decide +kernel⟩
  exact ⟨listed, ⟨[], "ΤΡΩΜΑ".toList, by decide +kernel⟩, by decide +kernel⟩

end InboxAudit.Filter
