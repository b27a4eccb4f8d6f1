import InboxAudit.Analysis.Findings
import InboxAudit.Proofs.Mail.Headers

/-!
# What a replay holds

A rule catches a message if it can be replayed and its own matchers hold. The entry of a name is
what the rules of that name catch, one after the other (`get?_replay`), and there is one exactly
if some rule of the name can be replayed. Two rules of one name therefore hit the same messages:
what a rule hits is caught by some rule of its name (`hits_replay_iff`).
-/

namespace InboxAudit.Filter
set_option autoImplicit false

open InboxAudit.Mail (Message MessageId)

/-- The rule can be replayed and its own matchers hold for the message. -/
def Rule.catches (rule : Rule) (message : Message) : Bool :=
  match rule.matchers with
  | .error _ => false
  | .ok matchers => holdsAll matchers message

/-- The messages of the sample that the rule catches, in order. -/
def Rule.caught (sample : List Message) (rule : Rule) : List MessageId :=
  (sample.filter rule.catches).map (·.id)

theorem Rule.isReplayable_of_ok {rule : Rule} {matchers : List Matcher} (e : rule.matchers = .ok matchers) :
    rule.isReplayable = true := by
  rw [isReplayable, e]
  rfl

theorem Rule.isReplayable_of_error {rule : Rule} {reason : NotReplayable} (e : rule.matchers = .error reason) :
    rule.isReplayable = false := by
  rw [isReplayable, e]
  rfl

theorem Rule.isReplayable_of_catches {rule : Rule} {message : Message}
    (h : rule.catches message = true) : rule.isReplayable = true := by
  unfold catches at h
  split at h
  · cases h
  · next e => exact isReplayable_of_ok e

theorem Rule.catches_of_ok {rule : Rule} {matchers : List Matcher} (e : rule.matchers = .ok matchers) :
    rule.catches = holdsAll matchers := by
  funext message
  simp [catches, e]

/-- The headers that tests read. -/
def readHeaders : List String := ["From", "To", "Subject", "List-Id"]

theorem Field.header_mem (field : Field) : field.header ∈ readHeaders := by
  cases field <;> decide

/-- A test reads one of the headers, the text ones in lower case and the list one as an identifier. -/
theorem Matcher.holds_congr {m m' : Message}
    (texts : ∀ name ∈ readHeaders,
      Text.lowerCase (m.header name).toList = Text.lowerCase (m'.header name).toList)
    (lists : Mail.listId (m.header "List-Id") = Mail.listId (m'.header "List-Id")) (t : Matcher) :
    t.holds m = t.holds m' := by
  cases t with
  | text field candidates => simp only [holds, texts field.header field.header_mem]
  | list id => simp only [holds, lists]

/-- To every test the messages read the same. -/
def ReadsAs (m m' : Message) : Prop := ∀ name ∈ readHeaders, m.header name = m'.header name

instance (m m' : Message) : Decidable (ReadsAs m m') := inferInstanceAs (Decidable (∀ name ∈ _, _))

/-- Headers in another order read the same if no two names differ in the case of ASCII letters alone. -/
theorem readsAs_of_perm {m m' : Message} (order : m.headers.Perm m'.headers)
    (distinct : (m.headers.map fun h => Text.foldCase h.1.toList).Nodup) : ReadsAs m m' := by
  intro name _
  have agrees := Message.agreesOn_of_nodup (R := Eq) (fun _ => rfl) distinct name
  exact (Message.forall_perm_header_iff rfl).2 agrees m m' (List.Perm.refl _) order.symm

theorem Rule.catches_congr {m m' : Message} (same : ReadsAs m m') (rule : Rule) :
    rule.catches m = rule.catches m' := by
  have holds (t : Matcher) : t.holds m = t.holds m' := by
    apply Matcher.holds_congr
    · intro name mem
      rw [same name mem]
    · rw [same "List-Id" (by decide)]
  simp only [catches, holdsAll, holds]

theorem Rule.caught_of_not_isReplayable {rule : Rule} (h : rule.isReplayable = false)
    (sample : List Message) : rule.caught sample = [] := by
  have none : sample.filter rule.catches = [] := by
    rw [List.filter_eq_nil_iff]
    intro message _ catches
    rw [isReplayable_of_catches catches] at h
    cases h
  rw [caught, none, List.map_nil]

theorem Rule.mem_caught {sample : List Message} {rule : Rule} {id : MessageId} :
    id ∈ rule.caught sample ↔ ∃ m ∈ sample, m.id = id ∧ rule.catches m = true := by
  simp only [caught, List.mem_map, List.mem_filter]
  constructor
  · rintro ⟨m, ⟨mem, catches⟩, eq⟩
    exact ⟨m, mem, eq, catches⟩
  · rintro ⟨m, mem, eq, catches⟩
    exact ⟨m, ⟨mem, catches⟩, eq⟩

end InboxAudit.Filter

namespace InboxAudit.Analysis

open InboxAudit.Filter (ReadsAs Rule)
open InboxAudit.Mail (Message MessageId)

/-- Messages of one identifier read the same. -/
def HeadersByIdentifier (sample : List Message) : Prop :=
  ∀ m ∈ sample, ∀ m' ∈ sample, m.id = m'.id → ReadsAs m m'

instance (sample : List Message) : Decidable (HeadersByIdentifier sample) :=
  inferInstanceAs (Decidable (∀ m ∈ _, ∀ m' ∈ _, _ → _))

/-- So they do if those of one identifier have the same headers, and no two names of a message differ in the case of
ASCII letters alone. -/
theorem headersByIdentifier_of_perm {sample : List Message}
    (equal : ∀ m ∈ sample, ∀ m' ∈ sample, m.id = m'.id → m.headers.Perm m'.headers)
    (distinct : ∀ m ∈ sample, (m.headers.map fun h => Text.foldCase h.1.toList).Nodup) :
    HeadersByIdentifier sample :=
  fun m mem m' mem' same => Filter.readsAs_of_perm (equal m mem m' mem' same) (distinct m mem)

/-- Some rule of the name can be replayed. -/
def wasReplayed (rules : List Rule) (name : String) : Bool :=
  rules.any fun rule => rule.isReplayable && rule.name = name

/-- Some rule of the name catches a message with the identifier. -/
def CaughtUnder (rules : List Rule) (sample : List Message) (name : String) (id : MessageId) : Prop :=
  ∃ rule ∈ rules, rule.name = name ∧ ∃ m ∈ sample, m.id = id ∧ rule.catches m = true

variable {rules : List Rule} {sample : List Message}

theorem wasReplayed_cons (rule : Rule) (rest : List Rule) (name : String) :
    wasReplayed (rule :: rest) name =
      (rule.isReplayable && rule.name = name || wasReplayed rest name) := by
  simp [wasReplayed]

theorem caught_of_not_wasReplayed {name : String} (h : wasReplayed rules name = false)
    (sample : List Message) :
    (rules.filter (·.name = name)).flatMap (Rule.caught sample) = [] := by
  rw [List.flatMap_eq_nil_iff]
  intro rule mem
  obtain ⟨mem, named⟩ := List.mem_filter.1 mem
  apply Rule.caught_of_not_isReplayable
  have passed := List.any_eq_false.1 h rule mem
  simpa [of_decide_eq_true named] using passed

theorem get?_addRule (sample : List Message) (table : Replay) (rule : Rule) (name : String) :
    (table.addRule sample rule).get? name =
      if rule.isReplayable && rule.name = name then
        some ((table.get? name).getD [] ++ rule.caught sample)
      else table.get? name := by
  unfold Replay.addRule
  split
  · next e => simp [Rule.isReplayable_of_error e]
  · next matchers e =>
    have caught : rule.caught sample = matchedIds matchers sample := by
      rw [Rule.caught, Rule.catches_of_ok e, matchedIds]
    rw [Table.get?_put, caught]
    by_cases eq : rule.name = name
    · subst eq
      simp [Rule.isReplayable_of_ok e]
    · simp [eq]

/-- The entry of a name is what the rules of that name catch, in rule order. -/
theorem get?_replay (rules : List Rule) (sample : List Message) (name : String) :
    (replay rules sample).get? name =
      if wasReplayed rules name then
        some ((rules.filter (·.name = name)).flatMap (Rule.caught sample))
      else none := by
  suffices fill : ∀ table : Replay, (rules.foldl (Replay.addRule sample) table).get? name =
      if wasReplayed rules name then
        some ((table.get? name).getD [] ++
          (rules.filter (·.name = name)).flatMap (Rule.caught sample))
      else table.get? name by
    simpa [replay] using fill []
  induction rules with
  | nil => simp [wasReplayed]
  | cons rule rest ih =>
    intro table
    rw [List.foldl_cons, ih, get?_addRule]
    by_cases named : rule.name = name
    · cases replayable : rule.isReplayable with
      | true =>
        cases more : wasReplayed rest name with
        | true => simp [wasReplayed_cons, named, replayable, more]
        | false =>
          have nothing := caught_of_not_wasReplayed more sample
          simp [wasReplayed_cons, named, replayable, more, nothing]
      | false =>
        have nothing := Rule.caught_of_not_isReplayable replayable sample
        simp [wasReplayed_cons, named, replayable, nothing]
    · simp [wasReplayed_cons, named]

/-- What a rule hits is caught by some rule of its name. -/
theorem hits_replay_iff {rule : Rule} {id : MessageId} :
    hits (replay rules sample) id rule = true ↔ CaughtUnder rules sample rule.name id := by
  have entry : ((replay rules sample).get? rule.name).getD [] =
      (rules.filter (·.name = rule.name)).flatMap (Rule.caught sample) := by
    rw [get?_replay]
    cases was : wasReplayed rules rule.name with
    | true => simp
    | false => simp [caught_of_not_wasReplayed was]
  rw [hits, entry, List.contains_iff_mem, List.mem_flatMap]
  constructor
  · rintro ⟨r, mem, caught⟩
    obtain ⟨mem, named⟩ := List.mem_filter.1 mem
    exact ⟨r, mem, of_decide_eq_true named, Rule.mem_caught.1 caught⟩
  · rintro ⟨r, mem, named, caught⟩
    exact ⟨r, List.mem_filter.2 ⟨mem, decide_eq_true named⟩, Rule.mem_caught.2 caught⟩

/-- A filter on the sender `news` and a subject, named after its sender if the name is empty. -/
def newsFilter (name subject : String) (action : Filter.Action) : Filter :=
  ⟨"", name, ⟨"news", "", subject, "", ""⟩, action⟩

/-- A filter that archives the letters on `alpha` and one that stars the letters on `beta`. -/
def newsFilters (archiver starrer : String) : Filter.Export :=
  ⟨[newsFilter archiver "alpha" ⟨[], ["INBOX"], ""⟩,
    newsFilter starrer "beta" ⟨["STARRED"], [], ""⟩], []⟩

/-- A message from `news`. -/
def newsLetter (id : MessageId) (subject : String) : Message :=
  Message.ofHeaders id [] [("From", "news"), ("Subject", subject)]

end InboxAudit.Analysis
