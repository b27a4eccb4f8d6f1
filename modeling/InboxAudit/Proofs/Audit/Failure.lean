import InboxAudit.Audit.Rehearsal
import InboxAudit.Proofs.Audit.Transcript

/-!
# The first failure

The first call that fails ends an audit. What the audit asked for until then is what it asks for in
surroundings that answer this call as well, and what it reports is the failed call
(`run_stops_at_first_failure`).
-/

namespace InboxAudit.Audit
set_option autoImplicit false

open InboxAudit.Mail (ListPage LabelCatalog MailboxError Message MessageId)

variable {σ τ : Type}

/-- A call of the mailbox or of the loader fails, and how the audit reports it: a call of the mailbox
by its name and the error of the mailbox, a call of the loader by the error of the loader. -/
inductive FailsWith : (call : Request) → Reply call → AuditError → Prop where
  | labels (e : MailboxError) : FailsWith .labels (.failed e) (.fetch "list labels" e)
  | page (query token : String) (size : Nat) (e : MailboxError) :
    FailsWith (.page query token size) (.failed e) (.fetch "list messages" e)
  | metadata (id : MessageId) (headers : List String) (e : MailboxError) :
    FailsWith (.metadata id headers) (.failed e) (.fetch ("get metadata " ++ id) e)
  | filters (e : AuditError) : FailsWith .filters (.failed e) e

theorem FailsWith.settle_eq {call : Request} {reply : Reply call} {e : AuditError}
    (fails : FailsWith call reply e) : reply.settle = .error e := by
  cases fails with
  | labels e => rfl
  | page query token size e => rfl
  | metadata id headers e => rfl
  | filters e => rfl

/-- An audit of an empty window makes no request. In any other audit let the surroundings answer as
calm ones do up to some call, and let this call fail: then the requests are those that the calm
surroundings see, up to this call and no further, and the result is the error that reports it. -/
theorem run_stops_at_first_failure (world : Surroundings (StateM σ)) (calm : Surroundings (StateM τ))
    (start : σ) (start' : τ) (options : Options) (hasFilters : Bool) (time : Time.Instant)
    (limit : Nat) :
    (options.window.isZero = true → (run world options hasFilters time limit).run start =
      (⟨[], some (.error (.config "window must be positive"))⟩, start)) ∧
    ∀ (before after : List Request) (failing : Request) (e : AuditError),
      ((run calm options hasFilters time limit).run start').1.requests =
        before ++ failing :: after →
      world.exchanges start before = calm.exchanges start' before →
      FailsWith failing ((world.reply failing).run (world.stateAfter start before)).1 e →
      (run world options hasFilters time limit).run start =
        (⟨before ++ [failing], some (.error e)⟩, world.stateAfter start (before ++ [failing])) := by
  constructor
  · intro empty
    have unusable : options.resolved = .error (.config "window must be positive") := by
      rw [Options.resolved, if_pos empty]
    rw [run_of_unusable world hasFilters time limit unusable]
    rfl
  · intro before after failing e requested same fails
    have ends := run_of_same_exchanges hasFilters time limit requested same fails.settle_eq
    have state := state_run world hasFilters time limit start options
    rw [ends] at state
    exact Prod.ext ends state

/-- A mailbox of two pages; the message `b` is the first one of the second page. -/
def twoPages (b : Except MailboxError Message) : Script where
  labels := .ok .empty
  pages := [("", .ok ⟨["a"], "p1"⟩), ("p1", .ok ⟨["b", "a"], ""⟩)]
  messages := [("a", .ok ⟨"a", ["INBOX"], []⟩), ("b", b)]
  filters := .ok ⟨[], []⟩
  pacing := .none
  cancelAt := none
  hangs := false

theorem run_stops_at_first_failure_twoPages :
    let world := (twoPages (.error (.forbidden "no scope"))).surroundings
    let calm := (twoPages (.ok ⟨"b", [], []⟩)).surroundings
    let start := (twoPages (.error (.forbidden "no scope"))).start false
    let start' := (twoPages (.ok ⟨"b", [], []⟩)).start false
    let before : List Request :=
      [.labels, .leave "rate limit messages", .page "newer_than:7d" "" 500,
        .leave "rate limit metadata", .metadata "a" Mail.defaultHeaders,
        .leave "rate limit messages", .page "newer_than:7d" "p1" 500, .leave "rate limit metadata"]
    let after : List Request :=
      [.leave "rate limit metadata", .metadata "a" Mail.defaultHeaders, .filters]
    let failing : Request := .metadata "b" Mail.defaultHeaders
    let e : AuditError := .fetch "get metadata b" (.forbidden "no scope")
    ((run calm (.ofDays 7) true ⟨0, 0⟩ 20).run start').1.requests = before ++ failing :: after ∧
      world.exchanges start before = calm.exchanges start' before ∧
      FailsWith failing ((world.reply failing).run (world.stateAfter start before)).1 e ∧
      ((run world (.ofDays 7) true ⟨0, 0⟩ 20).run start).1 = ⟨before ++ [failing], some (.error e)⟩ := by
  intro world calm start start' before after failing e
  have requested : ((run calm (.ofDays 7) true ⟨0, 0⟩ 20).run start').1.requests =
      before ++ failing :: after := by decide +kernel
  have same : world.exchanges start before = calm.exchanges start' before := by rfl
  have fails : FailsWith failing ((world.reply failing).run (world.stateAfter start before)).1 e :=
    .metadata "b" Mail.defaultHeaders (.forbidden "no scope")
  obtain ⟨-, stops⟩ := run_stops_at_first_failure world calm start start' (.ofDays 7) true ⟨0, 0⟩ 20
  exact ⟨requested, same, fails,
    congrArg Prod.fst (stops before after failing e requested same fails)⟩

end InboxAudit.Audit
