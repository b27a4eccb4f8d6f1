import InboxAudit.Audit.Run
import InboxAudit.Proofs.Collections.Outcomes

/-!
# Transcripts of an audit

A transcript is what an audit asks for and what comes of it, in order. The transcript alone decides
how far the audit has come: `Leads` follows the stages through a transcript of answers, and a run
whose surroundings give those answers goes the same way, request by request (`outcomeFrom_of_leads`).
The other way round, whatever a run asked for before one of its requests was answered
(`leads_of_requested`), and a run leaves its surroundings as its requests left them
(`state_runFrom`).
-/

namespace InboxAudit.Audit
set_option autoImplicit false

open InboxAudit.Mail (LabelCatalog ListPage Message)

variable {σ : Type}

/-- A request and what came of it. -/
structure Exchange where
  request : Request
  reply : Reply request

namespace Exchange

/-- The request was answered. -/
def isAnswered : Exchange → Bool
  | ⟨_, .answered _⟩ => true
  | _ => false

/-- The label catalog that was handed out, if one was. -/
def catalog? : Exchange → Option LabelCatalog
  | ⟨.labels, .answered catalog⟩ => some catalog
  | _ => none

/-- The page of the listing that was handed out, if one was. -/
def page? : Exchange → Option ListPage
  | ⟨.page _ _ _, .answered page⟩ => some page
  | _ => none

/-- The metadata that was handed out, if some was. -/
def message? : Exchange → Option Message
  | ⟨.metadata _ _, .answered message⟩ => some message
  | _ => none

end Exchange

/-- Every request of the transcript was answered. -/
def AllAnswered (transcript : List Exchange) : Prop :=
  ∀ e ∈ transcript, e.isAnswered = true

instance (transcript : List Exchange) : Decidable (AllAnswered transcript) :=
  inferInstanceAs (Decidable (∀ e ∈ transcript, e.isAnswered = true))

/-- A transcript of answers begins with the answer to its first request. -/
theorem AllAnswered.uncons {transcript : List Exchange} {request : Request} {rest : List Request}
    (answered : AllAnswered transcript)
    (asked : transcript.map Exchange.request = request :: rest) :
    ∃ answer later, transcript = ⟨request, .answered answer⟩ :: later ∧ AllAnswered later ∧
      later.map Exchange.request = rest := by
  obtain ⟨⟨_, reply⟩, later, rfl, rfl, remaining⟩ := List.map_eq_cons_iff.1 asked
  obtain ⟨first, others⟩ := List.forall_mem_cons.1 answered
  cases reply with
  | answered answer => exact ⟨answer, later, rfl, others, remaining⟩
  | failed cause => cases first
  | cancelled => cases first

theorem Reply.eq_answered_of_settle {request : Request} {reply : Reply request}
    {answer : request.Answer} (settled : reply.settle = .ok answer) : reply = .answered answer := by
  cases reply with
  | answered answer' => exact congrArg _ (Except.ok.inj settled)
  | failed cause => cases settled
  | cancelled => cases settled

namespace Surroundings

/-- What comes of requests that are made one after the other, from a state on. -/
def exchanges (world : Surroundings (StateM σ)) : σ → List Request → List Exchange
  | _, [] => []
  | s, request :: rest =>
    ⟨request, ((world.reply request).run s).1⟩ ::
      world.exchanges ((world.reply request).run s).2 rest

/-- The state after requests that are made one after the other. -/
def stateAfter (world : Surroundings (StateM σ)) (s : σ) (requests : List Request) : σ :=
  requests.foldl (fun s request => ((world.reply request).run s).2) s

theorem stateAfter_concat (world : Surroundings (StateM σ)) (s : σ) (requests : List Request)
    (request : Request) : world.stateAfter s (requests ++ [request]) =
      ((world.reply request).run (world.stateAfter s requests)).2 := by
  rw [stateAfter, List.foldl_append]
  rfl

theorem map_request_exchanges (world : Surroundings (StateM σ)) (s : σ) (requests : List Request) :
    (world.exchanges s requests).map Exchange.request = requests := by
  induction requests generalizing s with
  | nil => rfl
  | cons request rest ih => rw [exchanges, List.map_cons, ih]

end Surroundings

/-- The transcript, all of it answers, takes an audit from one point to another. -/
inductive Leads (plan : Plan) : Next → List Exchange → Next → Prop where
  | here (next : Next) : Leads plan next [] next
  | answer {stage : Stage} {next : Next} {rest : List Exchange}
      (answer : (stage.request plan).Answer) (further : Leads plan (stage.next plan answer) rest next) :
      Leads plan (.ask stage) (⟨stage.request plan, .answered answer⟩ :: rest) next

theorem Leads.append {plan : Plan} {first middle last : Next} {before after : List Exchange}
    (h : Leads plan first before middle) (h' : Leads plan middle after last) :
    Leads plan first (before ++ after) last := by
  induction h with
  | here => exact h'
  | answer answer _ ih => exact .answer answer (ih h')

/-- The outcome of a run with some requests in front. -/
def Outcome.afterAll (requests : List Request) (rest : Outcome) : Outcome :=
  { rest with requests := requests ++ rest.requests }

/-- The outcome of a run that has come to some point, in surroundings that are in some state. -/
def outcomeFrom (plan : Plan) (world : Surroundings (StateM σ)) (limit : Nat) (s : σ) :
    Next → Outcome
  | .finish report => ⟨[], some (.ok report)⟩
  | .ask stage => ((runFrom plan world limit stage).run s).1

section

variable {plan : Plan} {world : Surroundings (StateM σ)} {s : σ} (limit : Nat)

/-- A request that is not answered ends the run with its error. -/
theorem outcomeFrom_of_error {stage : Stage} {e : AuditError}
    (settled : ((world.reply (stage.request plan)).run s).1.settle = .error e) :
    outcomeFrom plan world (limit + 1) s (.ask stage) = ⟨[stage.request plan], some (.error e)⟩ := by
  rw [outcomeFrom, runFrom, run_bind, settled]
  rfl

/-- After an answer the run goes on from what follows it. -/
theorem outcomeFrom_of_answer {stage : Stage} {answer : (stage.request plan).Answer}
    (settled : ((world.reply (stage.request plan)).run s).1.settle = .ok answer) :
    outcomeFrom plan world (limit + 1) s (.ask stage) =
      (outcomeFrom plan world limit ((world.reply (stage.request plan)).run s).2
        (stage.next plan answer)).after (stage.request plan) := by
  rw [outcomeFrom, runFrom, run_bind, settled]
  cases follows : stage.next plan answer with
  | finish report =>
    simp only [outcomeFrom, follows]
    rfl
  | ask next =>
    simp only [outcomeFrom, follows]
    rfl

/-- A run goes the way that the answers of its surroundings lead. -/
theorem outcomeFrom_of_leads {first last : Next} {requests : List Request}
    (leads : Leads plan first (world.exchanges s requests) last) :
    outcomeFrom plan world (limit + requests.length) s first =
      (outcomeFrom plan world limit (world.stateAfter s requests) last).afterAll requests := by
  generalize asked : world.exchanges s requests = transcript at leads
  -- The state moves on with every answer, and with it the requests that are still to be made.
  induction leads generalizing s requests with
  | here next =>
    cases requests with
    | nil => rfl
    | cons request rest => simp [Surroundings.exchanges] at asked
  | @answer stage next transcript answer _ ih =>
    cases requests with
    | nil => simp [Surroundings.exchanges] at asked
    | cons request rest =>
      rw [Surroundings.exchanges] at asked
      obtain ⟨head, tail⟩ := List.cons.inj asked
      obtain ⟨rfl, reply⟩ := Exchange.mk.inj head
      have settled : ((world.reply (stage.request plan)).run s).1.settle = .ok answer := by
        rw [eq_of_heq reply]
        rfl
      rw [List.length_cons, ← Nat.add_assoc, outcomeFrom_of_answer _ settled, ih tail]
      rfl

/-- The end of a run, from a stage on, in surroundings that are in some state. -/
theorem state_runFrom (stage : Stage) :
    ((runFrom plan world limit stage).run s).2 =
      world.stateAfter s ((runFrom plan world limit stage).run s).1.requests := by
  induction limit generalizing s stage with
  | zero => rfl
  | succ limit ih =>
    rw [runFrom, run_bind]
    cases settled : ((world.reply (stage.request plan)).run s).1.settle with
    | error e => rfl
    | ok answer =>
      simp only
      cases follows : stage.next plan answer with
      | finish report => rfl
      | ask next => exact ih next

/-- All requests before one that a run makes were answered, and the answers led to it. -/
theorem leads_of_requested {before after : List Request} {request : Request} {first : Next}
    (requested : (outcomeFrom plan world limit s first).requests = before ++ request :: after) :
    ∃ stage spare, stage.request plan = request ∧ limit = spare + 1 + before.length ∧
      Leads plan first (world.exchanges s before) (.ask stage) := by
  induction before generalizing s first limit with
  | nil =>
    cases first with
    | finish report => cases requested
    | ask stage =>
      cases limit with
      | zero => cases requested
      | succ spare =>
        refine ⟨stage, spare, ?_, rfl, .here _⟩
        cases settled : ((world.reply (stage.request plan)).run s).1.settle with
        | error e =>
          rw [outcomeFrom_of_error spare settled] at requested
          exact (List.cons.inj requested).1
        | ok answer =>
          rw [outcomeFrom_of_answer spare settled] at requested
          exact (List.cons.inj requested).1
  | cons earlier before ih =>
    cases first with
    | finish report => cases requested
    | ask stage =>
      cases limit with
      | zero => cases requested
      | succ limit =>
        cases settled : ((world.reply (stage.request plan)).run s).1.settle with
        | error e =>
          rw [outcomeFrom_of_error limit settled] at requested
          have ended : [] = before ++ request :: after := (List.cons.inj requested).2
          simp at ended
        | ok answer =>
          rw [outcomeFrom_of_answer limit settled] at requested
          obtain ⟨rfl, later⟩ := List.cons.inj requested
          obtain ⟨last, spare, asks, rfl, leads⟩ := ih limit later
          refine ⟨last, spare, asks, rfl, ?_⟩
          rw [Surroundings.exchanges, Reply.eq_answered_of_settle settled]
          exact .answer answer leads

end

/-- A run goes the same way in surroundings whose replies mean the same, as long as there are
answers. -/
theorem outcomeFrom_eq_of_simulation {τ : Type} {plan : Plan} {world : Surroundings (StateM σ)}
    {world' : Surroundings (StateM τ)} {R : σ → τ → Prop}
    (agree : ∀ r s t, R s t → ((world.reply r).run s).1.settle = ((world'.reply r).run t).1.settle ∧
      ∀ answer, ((world.reply r).run s).1.settle = .ok answer →
        R ((world.reply r).run s).2 ((world'.reply r).run t).2)
    (limit : Nat) {s : σ} {t : τ} (related : R s t) (next : Next) :
    outcomeFrom plan world limit s next = outcomeFrom plan world' limit t next := by
  induction limit generalizing s t next with
  | zero => cases next <;> rfl
  | succ limit ih =>
    cases next with
    | finish report => rfl
    | ask stage =>
      obtain ⟨same, further⟩ := agree (stage.request plan) s t related
      cases settled : ((world.reply (stage.request plan)).run s).1.settle with
      | error e => rw [outcomeFrom_of_error limit settled, outcomeFrom_of_error limit (same ▸ settled)]
      | ok answer =>
        rw [outcomeFrom_of_answer limit settled, outcomeFrom_of_answer limit (same ▸ settled),
          ih (further answer settled)]

section

variable (world : Surroundings (StateM σ)) (hasFilters : Bool) (time : Time.Instant) (limit : Nat)
  (s : σ)

theorem run_of_resolved {options resolved : Options} (ready : options.resolved = .ok resolved) :
    run world options hasFilters time limit = runFrom ⟨resolved, hasFilters, time⟩ world limit .labels := by
  rw [run, ready]

theorem run_of_unusable {options : Options} {e : AuditError} (unusable : options.resolved = .error e) :
    run world options hasFilters time limit = pure ⟨[], some (.error e)⟩ := by
  rw [run, unusable]

/-- A run leaves its surroundings as its requests left them. -/
theorem state_run (options : Options) :
    ((run world options hasFilters time limit).run s).2 =
      world.stateAfter s ((run world options hasFilters time limit).run s).1.requests := by
  cases ready : options.resolved with
  | error e =>
    rw [run_of_unusable world hasFilters time limit ready]
    rfl
  | ok resolved =>
    rw [run_of_resolved world hasFilters time limit ready]
    exact state_runFrom limit .labels

/-- A run that makes a request has usable options, and the answers to all requests before that one
led to it. -/
theorem leads_of_run_requested {options : Options} {before after : List Request} {request : Request}
    (requested : ((run world options hasFilters time limit).run s).1.requests =
      before ++ request :: after) :
    ∃ resolved stage spare, options.resolved = .ok resolved ∧ limit = spare + 1 + before.length ∧
      let plan : Plan := ⟨resolved, hasFilters, time⟩
      stage.request plan = request ∧ Leads plan (.ask .labels) (world.exchanges s before) (.ask stage) := by
  cases ready : options.resolved with
  | error e =>
    rw [run_of_unusable world hasFilters time limit ready] at requested
    have nothing : [] = before ++ request :: after := requested
    simp at nothing
  | ok resolved =>
    rw [run_of_resolved world hasFilters time limit ready] at requested
    obtain ⟨stage, spare, asks, enough, leads⟩ :=
      @leads_of_requested σ ⟨resolved, hasFilters, time⟩ world s limit before after request
        (.ask .labels) requested
    exact ⟨resolved, stage, spare, rfl, enough, asks, leads⟩

end

/-- Let surroundings answer like calm ones up to some request that a run of the calm ones makes. If
this request fails in them, it is the last one of their run, and its error is the result. -/
theorem run_of_same_exchanges {τ : Type} {world : Surroundings (StateM σ)}
    {calm : Surroundings (StateM τ)} {start : σ} {start' : τ} {options : Options} (hasFilters : Bool)
    (time : Time.Instant) (limit : Nat) {before after : List Request} {failing : Request}
    {e : AuditError}
    (requested : ((run calm options hasFilters time limit).run start').1.requests =
      before ++ failing :: after)
    (same : world.exchanges start before = calm.exchanges start' before)
    (settled : ((world.reply failing).run (world.stateAfter start before)).1.settle = .error e) :
    ((run world options hasFilters time limit).run start).1 =
      ⟨before ++ [failing], some (.error e)⟩ := by
  obtain ⟨resolved, stage, spare, ready, rfl, rfl, leads⟩ :=
    leads_of_run_requested calm hasFilters time limit start' requested
  rw [← same] at leads
  have ends := outcomeFrom_of_leads (spare + 1) leads
  rw [outcomeFrom_of_error spare settled] at ends
  rw [run_of_resolved world hasFilters time _ ready]
  exact ends

end InboxAudit.Audit
