import InboxAudit.Proofs.Audit.Interleaving
import InboxAudit.Proofs.Audit.Sampling

/-!
# Cancelled audits

Every page of the listing and every message is asked for directly behind a request for leave
(`leave_before_paced`), and leave is refused to an audit that is cancelled when it asks. So no call
for a page, a message or the filters is made after a wait that the audit entered cancelled, in
whatever course of things, and such an audit ends without a report (`run_ends_at_cancelled_wait`).
-/

namespace InboxAudit.Audit
set_option autoImplicit false

variable {σ μ : Type}

/-- The calls that need leave. -/
def Request.isPaced : Request → Bool
  | .page _ _ _ => true
  | .metadata _ _ => true
  | _ => false

section Stages

variable {plan : Plan}

/-- The last answer of a transcript is what led to its end. -/
theorem Leads.last_exchange {first last : Next} {transcript : List Exchange}
    (leads : Leads plan first transcript last) :
    (transcript = [] ∧ first = last) ∨ ∃ earlier previous answer,
      transcript = earlier ++ [⟨Stage.request plan previous, .answered answer⟩] ∧
        previous.next plan answer = last := by
  induction leads with
  | here next => exact .inl ⟨rfl, rfl⟩
  | @answer stage last rest answer _ ih =>
    right
    obtain ⟨rfl, follows⟩ | ⟨earlier, previous, answer', rfl, follows⟩ := ih
    · exact ⟨[], stage, answer, rfl, follows⟩
    · exact ⟨_ :: earlier, previous, answer', rfl, follows⟩

theorem afterSample_asks {g : Gathered} {stage : Stage} (asks : plan.afterSample g = .ask stage) :
    stage = .filters g := by
  unfold Plan.afterSample at asks
  split at asks
  · cases asks
  split at asks
  · exact (Next.ask.inj asks).symm
  · cases asks

/-- After the messages of a page come a message, a page or the filters; no call that needs leave. -/
theorem afterMessages_asks {g : Gathered} {pending : List Mail.MessageId} {next : String}
    {stage : Stage} (asks : plan.afterMessages g pending next = .ask stage) :
    (stage.request plan).isPaced = false := by
  unfold Plan.afterMessages at asks
  split at asks
  · obtain rfl := Next.ask.inj asks
    rfl
  split at asks
  · obtain rfl := afterSample_asks asks
    rfl
  · obtain rfl := Next.ask.inj asks
    rfl

/-- Only an answer to a request for leave is followed by a call that needs leave. -/
theorem request_of_paced {previous stage : Stage} {answer : (previous.request plan).Answer}
    (follows : previous.next plan answer = .ask stage) (paced : (stage.request plan).isPaced = true) :
    ∃ operation, previous.request plan = .leave operation := by
  cases previous with
  | labels =>
    obtain rfl := Next.ask.inj follows
    cases paced
  | pageLeave g token => exact ⟨"rate limit messages", rfl⟩
  | page g token =>
    rw [afterMessages_asks follows] at paced
    cases paced
  | messageLeave g id pending next => exact ⟨"rate limit metadata", rfl⟩
  | message g id pending next =>
    rw [afterMessages_asks follows] at paced
    cases paced
  | filters g => cases follows

end Stages

/-- A call for a page or a message stands directly behind a request for leave. -/
theorem leave_before_paced (world : Surroundings (StateM σ)) (start : σ) (options : Options)
    (hasFilters : Bool) (time : Time.Instant) (limit : Nat) {before after : List Request}
    {call : Request} (requested : ((run world options hasFilters time limit).run start).1.requests =
      before ++ call :: after) (paced : call.isPaced = true) :
    ∃ earlier operation, before = earlier ++ [.leave operation] := by
  obtain ⟨resolved, stage, spare, ready, -, rfl, leads⟩ :=
    leads_of_run_requested world hasFilters time limit start requested
  obtain ⟨-, asks⟩ | ⟨earlier, previous, answer, transcript, follows⟩ := leads.last_exchange
  · obtain rfl := Next.ask.inj asks
    cases paced
  · obtain ⟨operation, leave⟩ := request_of_paced follows paced
    refine ⟨earlier.map Exchange.request, operation, ?_⟩
    have requests := congrArg (List.map Exchange.request) transcript
    rw [Surroundings.map_request_exchanges, List.map_append] at requests
    rw [requests, ← leave]
    rfl

section Courses

variable (service : Service μ) (limiter : Limiter) (course : Course μ) (s : Situation μ)
  (options : Options) (hasFilters : Bool) (time : Time.Instant) (limit : Nat)

/-- A wait that is entered cancelled is the last request of a run, and its error is the result. -/
theorem run_of_cancelled_wait {before after : List Request} {operation : String}
    (requested : ((run (interleaved service limiter course) options hasFilters time limit).run
      s).1.requests = before ++ .leave operation :: after)
    (cancelled :
      course.cancelsNext ((interleaved service limiter course).stateAfter s before) = true) :
    ((run (interleaved service limiter course) options hasFilters time limit).run s).1 =
      ⟨before ++ [.leave operation], some (.error (.cancelled operation))⟩ := by
  obtain ⟨refused, -⟩ := interleaved_leave_of_cancelled service limiter course _ operation cancelled
  exact run_of_same_exchanges hasFilters time limit requested rfl refused

/-- An audit that was cancelled before a call is cancelled when it makes its next request. -/
theorem cancelsNext_after_labels (cancelled : s.cancelled = true) :
    course.cancelsNext (((interleaved service limiter course).reply .labels).run s).2 = true := by
  have entered : (s.enter (course s)).cancelled = true := by
    simp [Situation.enter, cancelled]
  have called := Situation.cancelled_call service entered (course s) .labels
  rw [Course.cancelsNext, Situation.enter, Bool.or_eq_true]
  exact .inl called

/-- A run that begins cancelled comes to the wait before the first page at most, and it ends with an
error unless it may not make the two requests. -/
theorem run_of_cancelled_start (cancelled : s.cancelled = true) :
    let outcome := ((run (interleaved service limiter course) options hasFilters time limit).run s).1
    outcome.requests <+: [.labels, .leave "rate limit messages"] ∧
      (outcome.result = none ∧ limit < 2 ∨ ∃ e, outcome.result = some (.error e)) := by
  intro outcome
  cases ready : options.resolved with
  | error e =>
    have ends : outcome = ⟨[], some (.error e)⟩ := by
      simp only [outcome, run_of_unusable _ hasFilters time limit ready]
      rfl
    rw [ends]
    exact ⟨List.nil_prefix, .inr ⟨e, rfl⟩⟩
  | ok resolved =>
    let plan : Plan := ⟨resolved, hasFilters, time⟩
    have begins : outcome =
        outcomeFrom plan (interleaved service limiter course) limit s (.ask .labels) := by
      simp only [outcome, run_of_resolved _ hasFilters time limit ready]
      rfl
    rw [begins]
    cases limit with
    | zero => exact ⟨List.nil_prefix, .inl ⟨rfl, by decide⟩⟩
    | succ limit =>
      -- The race for the labels goes either way; if they come, the next request is refused.
      cases settled : (((interleaved service limiter course).reply .labels).run s).1.settle with
      | error e =>
        have ends := @outcomeFrom_of_error _ plan _ s limit .labels e settled
        rw [ends]
        exact ⟨⟨[.leave "rate limit messages"], rfl⟩, .inr ⟨e, rfl⟩⟩
      | ok catalog =>
        have goesOn := @outcomeFrom_of_answer _ plan _ s limit .labels catalog settled
        cases limit with
        | zero =>
          rw [goesOn]
          exact ⟨⟨[.leave "rate limit messages"], rfl⟩, .inl ⟨rfl, by decide⟩⟩
        | succ limit =>
          obtain ⟨refused, -⟩ := interleaved_leave_of_cancelled service limiter course _
            "rate limit messages" (cancelsNext_after_labels service limiter course s cancelled)
          have ends := @outcomeFrom_of_error _ plan _ _ limit (.pageLeave ⟨catalog, #[]⟩ "") _ refused
          rw [goesOn.trans (congrArg (Outcome.after .labels) ends)]
          exact ⟨List.prefix_refl _, .inr ⟨_, rfl⟩⟩

/-- Whatever the course of things, a call for a page or a message is made directly behind a wait that
the audit did not enter cancelled. A wait that it enters cancelled is its last request: no call is
begun after it, and the audit ends with the error of the wait. An audit that begins cancelled begins
no call but the one for the labels, if any, and ends with an error as soon as it may make the two
requests that this takes. -/
theorem run_ends_at_cancelled_wait (start : Situation μ) :
    let world := interleaved service limiter course
    let outcome := ((run world options hasFilters time limit).run start).1
    let final := ((run world options hasFilters time limit).run start).2
    (∃ made, made.Sublist (outcome.requests.filter Request.isCall) ∧
      final.issued = start.issued ++ made) ∧
    (∀ before call after, outcome.requests = before ++ call :: after → call.isPaced = true →
      ∃ earlier operation, before = earlier ++ [.leave operation] ∧
        course.cancelsNext (world.stateAfter start earlier) = false) ∧
    (∀ before operation after, outcome.requests = before ++ .leave operation :: after →
      course.cancelsNext (world.stateAfter start before) = true →
        after = [] ∧ outcome.result = some (.error (.cancelled operation)) ∧
          final.issued = (world.stateAfter start before).issued) ∧
    (start.cancelled = true →
      (∃ made, made.Sublist [.labels] ∧ final.issued = start.issued ++ made) ∧
        (∀ report, outcome.result ≠ some (.ok report)) ∧
          (2 ≤ limit → ∃ e, outcome.result = some (.error e))) := by
  intro world outcome final
  have left : final = world.stateAfter start outcome.requests :=
    state_run world hasFilters time limit start options
  have issued : ∃ made, made.Sublist (outcome.requests.filter Request.isCall) ∧
      final.issued = start.issued ++ made := by
    rw [left]
    exact interleaved_issued_stateAfter service limiter course start outcome.requests
  have lastWait : ∀ before operation after, outcome.requests = before ++ .leave operation :: after →
      course.cancelsNext (world.stateAfter start before) = true →
        outcome = ⟨before ++ [.leave operation], some (.error (.cancelled operation))⟩ := by
    intro before operation after requested cancelled
    exact run_of_cancelled_wait service limiter course start options hasFilters time limit requested
      cancelled
  refine ⟨issued, ?_, ?_, ?_⟩
  · intro before call after requested paced
    obtain ⟨earlier, operation, rfl⟩ :=
      leave_before_paced world start options hasFilters time limit requested paced
    refine ⟨earlier, operation, rfl, Bool.eq_false_iff.2 fun cancelled => ?_⟩
    -- Otherwise the wait would be the last request, and the call could not follow it.
    have requested' : outcome.requests = earlier ++ .leave operation :: (call :: after) := by
      rw [requested, List.append_assoc]
      rfl
    have ends := lastWait earlier operation (call :: after) requested' cancelled
    rw [ends] at requested'
    simp at requested'
  · intro before operation after requested cancelled
    have ends := lastWait before operation after requested cancelled
    refine ⟨?_, by rw [ends], ?_⟩
    · rw [ends] at requested
      simpa using requested.symm
    · rw [left, ends, Surroundings.stateAfter_concat]
      exact (interleaved_leave_of_cancelled service limiter course _ operation cancelled).2
  · intro cancelled
    obtain ⟨made, sub, begun⟩ := issued
    obtain ⟨stops, fails⟩ :=
      run_of_cancelled_start service limiter course start options hasFilters time limit cancelled
    refine ⟨⟨made, sub.trans (stops.sublist.filter Request.isCall), begun⟩, ?_, ?_⟩
    · intro report ends
      obtain ⟨nothing, -⟩ | ⟨e, error⟩ := fails
      · cases nothing.symm.trans ends
      · cases error.symm.trans ends
    · intro enough
      exact fails.resolve_left fun short => absurd short.2 (Nat.not_lt.2 enough)

end Courses

/-- The cancellation comes while the first page is listed and loses the race: the page is there, and
the wait for its first message is refused although the bucket holds a token. An audit that is
cancelled from the start gets its labels in the same course, and nothing else. -/
theorem run_ends_at_cancelled_wait_threePages :
    let course : Course Unit := fun s =>
      { cancelsBefore := false, elapsed := 5, others := id, naps := []
        cancelsDuring := s.issued.length == 1, preempted := false, abandoned := false }
    let world := interleaved threePages.service .bucket course
    let start := (threePages.start false).situation 0
    let cancelled := (threePages.start true).situation 0
    let before : List Request :=
      [.labels, .leave "rate limit messages", .page "newer_than:7d" "" 500]
    let ends := (run world (.ofDays 7) true ⟨0, 0⟩ 20).run start
    let ends' := (run world (.ofDays 7) true ⟨0, 0⟩ 20).run cancelled
    (ends.1.requests = before ++ [.leave "rate limit metadata"] ∧
      course.cancelsNext (world.stateAfter start before) = true ∧
      ends.1.result = some (.error (.cancelled "rate limit metadata")) ∧
      ends.2.issued = [.labels, .page "newer_than:7d" "" 500]) ∧
    cancelled.cancelled = true ∧ ends'.2.issued = [.labels] ∧ ∃ e, ends'.1.result = some (.error e) := by
  intro course world start cancelled before ends ends'
  have requested : ends.1.requests = before ++ [.leave "rate limit metadata"] := by decide +kernel
  have entered : course.cancelsNext (world.stateAfter start before) = true := by decide +kernel
  have begun : (world.stateAfter start before).issued = [.labels, .page "newer_than:7d" "" 500] := by
    decide +kernel
  obtain ⟨-, -, stops, -⟩ :=
    run_ends_at_cancelled_wait threePages.service .bucket course (.ofDays 7) true ⟨0, 0⟩ 20 start
  obtain ⟨-, result, same⟩ := stops before "rate limit metadata" [] requested entered
  obtain ⟨-, -, -, fails⟩ :=
    run_ends_at_cancelled_wait threePages.service .bucket course (.ofDays 7) true ⟨0, 0⟩ 20 cancelled
  obtain ⟨-, -, error⟩ := fails rfl
  exact ⟨⟨requested, entered, result, same.trans begun⟩, rfl, by decide +kernel, error (by decide)⟩

end InboxAudit.Audit
