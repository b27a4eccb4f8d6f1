import InboxAudit.Mail.Service.Client
import InboxAudit.Proofs.Json.Record
import InboxAudit.Proofs.Mail.Retry

/-!
# Changing many messages

All that goes over a network is written down here, whatever network it is. A call leaves one exchange for each of
its attempts (`run_retryFrom_recorded`), and a change of many messages the exchanges of one batch after another, up
to the first batch that fails for good (`run_modifyBatches`). The batches are the messages in their order, a
thousand at a time (`flatten_batches`, `length_of_mem_dropLast_batches`).
-/

namespace InboxAudit.Http
set_option autoImplicit false

/-- A request and what came of it. -/
structure Exchange where
  request : Request
  response : Response

/-- The state of a network, and what went over it so far. -/
structure Traffic (σ : Type) where
  state : σ
  exchanges : List Exchange

/-- The network with all its traffic written down. -/
def Network.recorded {σ : Type} (net : Network (StateM σ)) : Network (StateM (Traffic σ)) where
  send request t :=
    let (response, s) := net.send request t.state
    (response, ⟨s, t.exchanges ++ [⟨request, response⟩]⟩)
  wait seconds t := ((), { t with state := (net.wait seconds t.state).2 })

@[simp] theorem exchanges_wait_recorded {σ : Type} (net : Network (StateM σ)) (seconds : Nat) (t : Traffic σ) :
    ((net.recorded.wait seconds).run t).2.exchanges = t.exchanges := rfl

end InboxAudit.Http

namespace InboxAudit.Mail.Service

open InboxAudit.Http (Exchange Network Response Traffic exchanges_wait_recorded)

variable {σ : Type} {α : Type}

section Calls

variable (c : Call α) (net : Network (StateM σ))

/-- A call that is made once leaves one exchange. -/
theorem run_once_recorded (t : Traffic σ) : ∃ response s, (c.once net.recorded).run t =
    (c.conclude response, ⟨s, t.exchanges ++ [⟨c.request, response⟩]⟩) := by
  refine ⟨(net.send c.request t.state).1, ?_⟩
  have sent : (net.recorded.send c.request).run t = ((net.send c.request t.state).1,
      ⟨(net.send c.request t.state).2, t.exchanges ++ [⟨c.request, (net.send c.request t.state).1⟩]⟩) := rfl
  rw [Call.once, run_bind, sent]
  -- Only silence takes time, and time leaves no exchange.
  cases (net.send c.request t.state).1 <;> exact ⟨_, rfl⟩

/-- A call that is repeated leaves one exchange for each attempt: transient failures, no more than there may be
repeats, and the response that decides. -/
theorem run_retryFrom_recorded (retries delay : Nat) (t : Traffic σ) : ∃ failures last s,
    (retryFrom (c.once net.recorded) net.recorded.wait retries delay).run t =
        (c.conclude last, ⟨s, t.exchanges ++ (failures ++ [last]).map fun r => ⟨c.request, r⟩⟩) ∧
      (∀ r ∈ failures, failsForNow (c.conclude r) = true) ∧ failures.length ≤ retries ∧
      (failsForNow (c.conclude last) = true → failures.length = retries) := by
  induction retries generalizing delay t with
  | zero =>
    obtain ⟨response, s, once⟩ := run_once_recorded c net t
    exact ⟨[], response, s, once, List.forall_mem_nil _, Nat.le_refl 0, fun _ => rfl⟩
  | succ retries ih =>
    obtain ⟨response, s, once⟩ := run_once_recorded c net t
    cases goesOn : failsForNow (c.conclude response) with
    | false =>
      have settled : failsForNow ((c.once net.recorded).run t).1 = false := by rw [once, goesOn]
      refine ⟨[], response, s, ?_, List.forall_mem_nil _, Nat.zero_le _, fun failed => ?_⟩
      · rw [run_retryFrom_of_settled settled, once]
        rfl
      · rw [goesOn] at failed
        cases failed
    | true =>
      obtain ⟨e, outcome, transient⟩ := failsForNow_iff.1 goesOn
      have failed : ((c.once net.recorded).run t).1 = .error e := by rw [once, outcome]
      obtain ⟨failures, last, s', rest, again, atMost, final⟩ := ih (nextDelay delay)
        ((net.recorded.wait (pauseAfter delay e)).run ((c.once net.recorded).run t).2).2
      refine ⟨response :: failures, last, s', ?_, List.forall_mem_cons.2 ⟨goesOn, again⟩,
        Nat.succ_le_succ atMost, fun failed => by rw [List.length_cons, final failed]⟩
      rw [run_retryFrom_of_transient failed transient, rest, exchanges_wait_recorded, once]
      simp

end Calls

section Batches

variable {size : Nat} (positive : 0 < size)

/-- The batches are the items in their order. -/
theorem flatten_batches (items : List α) : (batches size positive items).flatten = items := by
  fun_induction batches size positive items with
  | case1 => rfl
  | case2 item rest ih => rw [List.flatten_cons, ih, List.take_append_drop]

/-- No batch is empty, and none holds more than it may. -/
theorem length_of_mem_batches {items batch : List α} (mem : batch ∈ batches size positive items) :
    batch ≠ [] ∧ batch.length ≤ size := by
  fun_induction batches size positive items with
  | case1 => cases mem
  | case2 item rest ih =>
    rcases List.mem_cons.1 mem with rfl | mem
    · refine ⟨fun empty => ?_, List.length_take_le _ _⟩
      rcases List.take_eq_nil_iff.1 empty with none | none
      · omega
      · cases none
    · exact ih mem

/-- All batches but the last hold as much as they may. -/
theorem length_of_mem_dropLast_batches {items batch : List α}
    (mem : batch ∈ (batches size positive items).dropLast) : batch.length = size := by
  fun_induction batches size positive items with
  | case1 => cases mem
  | case2 item rest ih =>
    cases others : (item :: rest).drop size with
    | nil =>
      rw [others, batches] at mem
      cases mem
    | cons next more =>
      have further : batches size positive ((item :: rest).drop size) ≠ [] := by
        rw [others, batches]
        exact List.cons_ne_nil _ _
      rw [List.dropLast_cons_of_ne_nil further] at mem
      rcases List.mem_cons.1 mem with rfl | mem
      · have long : 0 < ((item :: rest).drop size).length := by rw [others]; exact Nat.succ_pos _
        rw [List.length_drop] at long
        rw [List.length_take]
        omega
      · exact ih mem

end Batches

/-- What a body asks for: the messages to change, and the change. Labels that are left out are none. -/
def askedBy? (body : Json) : Option (List MessageId × LabelChange) := do
  match ← Json.fields? ["ids", "addLabelIds", "removeLabelIds"] body with
  | [ids, add, remove] =>
    return (← Json.field (Json.list? Json.text?) ids,
      ⟨← Json.fieldOr [] (Json.list? Json.text?) add, ← Json.fieldOr [] (Json.list? Json.text?) remove⟩)
  | _ => none

/-- The request for a batch asks for the change of its messages. -/
theorem request_modifyBatch (change : LabelChange) (batch : List MessageId) :
    ∃ body, (modifyBatch change batch).request = ⟨.post, mailboxTarget "messages/batchModify" [], some body⟩ ∧
      askedBy? body = some (batch, change) := by
  refine ⟨_, rfl, ?_⟩
  obtain ⟨add, remove⟩ := change
  by_cases noAdd : add = [] <;> by_cases noRemove : remove = [] <;>
    simp [askedBy?, Json.objectOf, Json.fields?, Json.single?, Json.field, Json.fieldOr, Json.list?_texts, noAdd,
      noRemove]

/-- How one batch was sent: the answers that were transient failures, and the one that decides. -/
structure Delivery where
  batch : List MessageId
  failures : List Response
  last : Response

namespace Delivery

variable (change : LabelChange) (d : Delivery)

/-- What came of the batch. -/
def outcome : Except MailboxError Unit := (modifyBatch change d.batch).conclude d.last

/-- What went over the network for the batch: one request, as often as there were answers. -/
def exchanges : List Exchange :=
  (d.failures ++ [d.last]).map fun response => ⟨(modifyBatch change d.batch).request, response⟩

/-- The batch was sent again after a transient failure, three times at most, and after nothing else. -/
structure IsTried : Prop where
  again : ∀ response ∈ d.failures, failsForNow ((modifyBatch change d.batch).conclude response) = true
  atMost : d.failures.length ≤ 3
  final : failsForNow (d.outcome change) = true → d.failures.length = 3

end Delivery

/-- The batches are sent one after the other, up to the first that fails for good. -/
inductive Delivers (change : LabelChange) :
    List (List MessageId) → List Delivery → Except MailboxError Unit → Prop where
  | done : Delivers change [] [] (.ok ())
  | next {d : Delivery} {rest : List (List MessageId)} {ds : List Delivery} {result : Except MailboxError Unit}
      (tried : d.IsTried change) (succeeded : d.outcome change = .ok ()) (further : Delivers change rest ds result) :
      Delivers change (d.batch :: rest) (d :: ds) result
  | fails {d : Delivery} {rest : List (List MessageId)} {e : MailboxError} (tried : d.IsTried change)
      (failed : d.outcome change = .error e) : Delivers change (d.batch :: rest) [d] (.error e)

section Delivered

variable {change : LabelChange} {chunks : List (List MessageId)} {ds : List Delivery}
  {result : Except MailboxError Unit}

theorem Delivers.isPrefix (h : Delivers change chunks ds result) : ds.map Delivery.batch <+: chunks := by
  induction h with
  | done => exact List.prefix_refl _
  | next _ _ _ ih => exact List.cons_prefix_cons.2 ⟨rfl, ih⟩
  | fails => exact List.cons_prefix_cons.2 ⟨rfl, List.nil_prefix⟩

theorem Delivers.isTried (h : Delivers change chunks ds result) : ∀ d ∈ ds, d.IsTried change := by
  induction h with
  | done => exact List.forall_mem_nil _
  | next tried _ _ ih => exact List.forall_mem_cons.2 ⟨tried, ih⟩
  | fails tried => exact List.forall_mem_singleton.2 tried

/-- Nothing follows a batch that failed. -/
theorem Delivers.succeeded (h : Delivers change chunks ds result) :
    ∀ d ∈ ds.dropLast, d.outcome change = .ok () := by
  induction h with
  | done => exact List.forall_mem_nil _
  | @next d rest ds result _ succeeded further ih =>
    cases ds with
    | nil => exact List.forall_mem_nil _
    | cons d' ds => exact List.forall_mem_cons.2 ⟨succeeded, ih⟩
  | fails => exact List.forall_mem_nil _

/-- The change succeeds if each of the batches was sent and succeeded. -/
theorem Delivers.result_eq_ok_iff (h : Delivers change chunks ds result) :
    result = .ok () ↔ ds.map Delivery.batch = chunks ∧ ∀ d ∈ ds, d.outcome change = .ok () := by
  induction h with
  | done => simp
  | next _ succeeded _ ih => simp [ih, succeeded]
  | fails _ failed => simp [failed]

/-- A change fails as the last batch that was sent does. -/
theorem Delivers.exists_failed (h : Delivers change chunks ds result) {e : MailboxError} (failed : result = .error e) :
    ∃ d, ds.getLast? = some d ∧ d.outcome change = .error e := by
  induction h with
  | done => cases failed
  | @next d rest ds result _ _ _ ih =>
    obtain ⟨d', last, outcome⟩ := ih failed
    exact ⟨d', by rw [List.getLast?_cons, last]; rfl, outcome⟩
  | @fails d rest e' _ failed' =>
    cases failed
    exact ⟨d, rfl, failed'⟩

end Delivered

/-- A change sends its batches one after the other. -/
theorem run_modifyBatches (net : Network (StateM σ)) (change : LabelChange) (chunks : List (List MessageId))
    (t : Traffic σ) : ∃ ds result s,
      (modifyBatches net.recorded change chunks).run t =
        (result, ⟨s, t.exchanges ++ ds.flatMap (Delivery.exchanges change)⟩) ∧
      Delivers change chunks ds result := by
  induction chunks generalizing t with
  | nil => exact ⟨[], .ok (), t.state, by rw [List.flatMap_nil, List.append_nil]; rfl, .done⟩
  | cons batch rest ih =>
    obtain ⟨failures, last, s, ran, again, atMost, final⟩ :=
      run_retryFrom_recorded (modifyBatch change batch) net maxRetries firstDelay t
    let d : Delivery := ⟨batch, failures, last⟩
    have tried : d.IsTried change := ⟨again, atMost, final⟩
    have first : ((modifyBatch change batch).run net.recorded).run t =
      (d.outcome change, ⟨s, t.exchanges ++ d.exchanges change⟩) := ran
    rw [modifyBatches, run_bind, first]
    cases outcome : d.outcome change with
    | ok value =>
      obtain ⟨ds, result, s', further, delivers⟩ := ih ⟨s, t.exchanges ++ d.exchanges change⟩
      refine ⟨d :: ds, result, s', ?_, .next tried outcome delivers⟩
      rw [further, List.flatMap_cons, List.append_assoc]
    | error e =>
      refine ⟨[d], .error e, s, ?_, .fails tried outcome⟩
      rw [List.flatMap_singleton]
      rfl

section Modify

variable (net : Network (StateM σ)) {ids : List MessageId} {change : LabelChange} (t : Traffic σ)

/-- Without messages or labels nothing is sent. -/
theorem run_modify_of_nothing (nothing : ids = [] ∨ change.add = [] ∧ change.remove = []) :
    (modify net.recorded ids change).run t = (.ok 0, t) := by
  have skipped : (ids.isEmpty || change.isEmpty) = true := by simpa [LabelChange.isEmpty] using nothing
  rw [modify, if_pos skipped]
  rfl

/-- A change with something to do ends as its batches do, and counts all messages if they succeed. -/
theorem run_modify_of_something (messages : ids ≠ []) (labels : change.add ≠ [] ∨ change.remove ≠ []) :
    ∃ ds result s, (modify net.recorded ids change).run t =
        (result.map fun _ => ids.length, ⟨s, t.exchanges ++ ds.flatMap (Delivery.exchanges change)⟩) ∧
      Delivers change (batches 1000 (by decide) ids) ds result := by
  have something : ¬ (ids.isEmpty || change.isEmpty) = true := by
    simp only [LabelChange.isEmpty, Bool.or_eq_true, Bool.and_eq_true, List.isEmpty_iff]
    tauto
  obtain ⟨ds, result, s, ran, delivers⟩ := run_modifyBatches net change (batches 1000 (by decide) ids) t
  refine ⟨ds, result, s, ?_, delivers⟩
  have stepwise : (modify net.recorded ids change).run t =
      ((modifyBatches net.recorded change (batches 1000 (by decide) ids) >>= fun done =>
        pure (done.map fun _ => ids.length)) : StateM (Traffic σ) _).run t := by
    rw [modify, if_neg something]
    rfl
  rw [stepwise, run_bind, ran]
  rfl

end Modify

/-- Many messages are changed in batches of a thousand, the last of which may be smaller, over any network. Without
messages or labels nothing is sent. Otherwise the batches go out in order, each as one request that asks for the
change of its messages and that is sent four times at most, again only after a transient failure. The first batch
that fails for good is the last one that is sent, and its last failure is returned; if each batch succeeded, the
number of the messages is. -/
theorem modify_sends_batches (net : Network (StateM σ)) (ids : List MessageId) (change : LabelChange) (s : σ) :
    let run := (modify net.recorded ids change).run ⟨s, []⟩
    let chunks := batches 1000 (by decide) ids
    (chunks.flatten = ids ∧ (∀ c ∈ chunks, c ≠ [] ∧ c.length ≤ 1000) ∧ ∀ c ∈ chunks.dropLast, c.length = 1000) ∧
      (∀ batch, ∃ body,
        (modifyBatch change batch).request = ⟨.post, mailboxTarget "messages/batchModify" [], some body⟩ ∧
          askedBy? body = some (batch, change)) ∧
      ((ids = [] ∨ change.add = [] ∧ change.remove = []) → run = (.ok 0, ⟨s, []⟩)) ∧
      (ids ≠ [] → change.add ≠ [] ∨ change.remove ≠ [] → ∃ ds : List Delivery,
        run.2.exchanges = ds.flatMap (Delivery.exchanges change) ∧ ds.map Delivery.batch <+: chunks ∧
          (∀ d ∈ ds, d.IsTried change) ∧ (∀ d ∈ ds.dropLast, d.outcome change = .ok ()) ∧
          (run.1 = .ok ids.length ↔ ds.map Delivery.batch = chunks ∧ ∀ d ∈ ds, d.outcome change = .ok ()) ∧
          (run.1 = .ok ids.length ∨
            ∃ d e, ds.getLast? = some d ∧ d.outcome change = .error e ∧ run.1 = .error e)) := by
  intro run chunks
  refine ⟨⟨flatten_batches _ ids, fun c => length_of_mem_batches _, fun c => length_of_mem_dropLast_batches _⟩,
    request_modifyBatch change, run_modify_of_nothing net ⟨s, []⟩, fun messages labels => ?_⟩
  obtain ⟨ds, result, s', whole, delivers⟩ := run_modify_of_something net ⟨s, []⟩ messages labels
  have returned : run.1 = result.map fun _ => ids.length := congrArg Prod.fst whole
  refine ⟨ds, congrArg (·.2.exchanges) whole, delivers.isPrefix, delivers.isTried, delivers.succeeded, ?_, ?_⟩
  · rw [returned, ← delivers.result_eq_ok_iff]
    cases result with
    | ok value => simp [Except.map]
    | error e => simp [Except.map]
  · cases result with
    | ok value => exact .inl returned
    | error e =>
      obtain ⟨d, last, failed⟩ := delivers.exists_failed rfl
      exact .inr ⟨d, e, last, failed, returned⟩

/-- Of two batches the second is refused, after a pause that the service asked for. -/
example :
    let responses := [.answer 204 [] [], .answer 429 [("Retry-After", "7")] [], .answer 403 [] [], .answer 204 [] []]
    let run := (modify Http.Conversation.network.recorded (List.replicate 1001 "m1") ⟨["STARRED"], []⟩).run
      ⟨⟨responses, 0, []⟩, []⟩
    run.1 = .error (.forbidden "HTTP 403: Forbidden") ∧ run.2.exchanges.length = 3 ∧ run.2.state.now = 7 := by
  decide +kernel

end InboxAudit.Mail.Service
