import InboxAudit.Audit.Live
import InboxAudit.Audit.Rehearsal
import InboxAudit.Proofs.Audit.Transcript

/-!
# Interleaved audits

An audit runs beside other things. It may be cancelled between any two of its steps, time goes by,
other callers use the same token bucket, and where a call and the cancellation are ready at once
either of them may be noticed first. All this is decided by a course, which sees everything that
has happened so far: a statement about every course is a statement about every moment of the
cancellation and every outcome of the races. Rehearsals without a scripted limiter are runs in one
course of their own (`rehearsal_interleaved`).
-/

namespace InboxAudit.Pace
set_option autoImplicit false

/-- How a caller sleeps that waits for a token. -/
structure Nap where
  /-- The caller is cancelled in its sleep. -/
  cancels : Bool
  /-- A cancelled sleeper is woken by the cancellation before the clock wakes it. -/
  interrupted : Bool
  /-- The seconds that the caller sleeps beyond the time it has to. -/
  late : Rat
  /-- What other callers do to the bucket meanwhile. -/
  others : TokenBucket → TokenBucket

/-- A caller of a token bucket. -/
structure Caller where
  cancelled : Bool
  now : Rat
  bucket : TokenBucket

/-- A caller waits for a token: turn after turn, and after every turn without a token a nap. After
the last of the naps it is cancelled in its sleep. The wait ends with a token or without one. -/
def Caller.wait (c : Caller) (naps : List Nap) : Bool × Caller :=
  match c.bucket.turn c.now c.cancelled with
  | (.granted, b) => (true, { c with bucket := b })
  | (.cancelled, b) => (false, { c with bucket := b })
  | (.sleep seconds, b) =>
    match naps with
    | [] => (false, { c with bucket := b, cancelled := true })
    | nap :: naps =>
      let woken : Caller := ⟨c.cancelled || nap.cancels, c.now + seconds + nap.late, nap.others b⟩
      if woken.cancelled && nap.interrupted then (false, woken) else woken.wait naps

/-- The first turn of a cancelled caller ends its wait. -/
theorem Caller.wait_of_cancelled {c : Caller} (cancelled : c.cancelled = true) (naps : List Nap) :
    c.wait naps = (false, c) := by
  have turn : c.bucket.turn c.now c.cancelled = (.cancelled, c.bucket) := by
    rw [TokenBucket.turn, if_pos cancelled]
  cases naps with
  | nil => rw [wait, turn]
  | cons nap naps => rw [wait, turn]

/-- A sleep that nothing disturbs. -/
def Nap.undisturbed : Nap := ⟨false, false, 0, id⟩

/-- A caller that has the bucket to itself and is not cancelled while it waits. -/
theorem Caller.wait_undisturbed (c : Caller) :
    let alone := c.bucket.wait c.now c.cancelled
    (c.wait [.undisturbed]).1 = alone.1 ∧
      (alone.1 = true → (c.wait [.undisturbed]).2 = ⟨c.cancelled, alone.2.1, alone.2.2⟩) := by
  intro alone
  obtain ⟨cancelled, now, b⟩ := c
  cases cancelled with
  | true =>
    have refused : alone = (false, now, b) := by
      simp [alone, TokenBucket.wait, TokenBucket.turn]
    rw [Caller.wait_of_cancelled rfl, refused]
    exact ⟨rfl, fun granted => nomatch granted⟩
  | false =>
    simp only [alone, Caller.wait, TokenBucket.wait, Nap.undisturbed, Rat.add_zero, Bool.or_self,
      Bool.false_and, id_eq]
    cases first : b.turn now false with
    | mk outcome b =>
      cases outcome with
      | granted => simp
      | cancelled => simp
      | sleep seconds =>
        cases second : b.turn (now + seconds) false with
        | mk outcome b => cases outcome <;> simp [second]

end InboxAudit.Pace

namespace InboxAudit.Audit

open InboxAudit.Mail (LabelCatalog ListPage Message)
open InboxAudit.Pace (Caller Nap TokenBucket)

variable {μ : Type}

/-- The requests that are calls of the mailbox or of the loader. -/
def Request.isCall : Request → Bool
  | .leave _ => false
  | _ => true

/-- A mailbox and a filter loader, which may remember what they were asked. -/
structure Service (μ : Type) where
  answer : (r : Request) → StateM μ (Except r.Failure r.Answer)

/-- What holds up the calls of an audit. -/
inductive Limiter where
  | none
  | bucket
  deriving DecidableEq

/-- How things stand while an audit runs: how many requests it has made, and which calls were
begun. -/
structure Situation (μ : Type) extends Caller where
  steps : Nat
  issued : List Request
  memory : μ

/-- What happens around one request. -/
structure Moment where
  /-- The audit is cancelled before the request. -/
  cancelsBefore : Bool
  /-- The seconds that go by before the request. -/
  elapsed : Rat
  /-- What other callers do to the bucket before the request. -/
  others : TokenBucket → TokenBucket
  /-- How the audit sleeps if the request is for leave. -/
  naps : List Nap
  /-- The audit is cancelled while the call is under way. -/
  cancelsDuring : Bool
  /-- The call of a cancelled audit is given up before it is begun. -/
  preempted : Bool
  /-- The answer to the call of a cancelled audit is not waited for, or passed over. -/
  abandoned : Bool

/-- What happens around the next request, whatever has happened so far. -/
abbrev Course (μ : Type) := Situation μ → Moment

namespace Situation

/-- How things stand when the next request is made. -/
def enter (s : Situation μ) (moment : Moment) : Situation μ where
  cancelled := s.cancelled || moment.cancelsBefore
  now := s.now + moment.elapsed
  bucket := moment.others s.bucket
  steps := s.steps + 1
  issued := s.issued
  memory := s.memory

/-- Leave for a call: without a limiter a look whether the audit is cancelled, otherwise a wait for
a token. -/
def leave (s : Situation μ) (limiter : Limiter) (moment : Moment) (operation : String) :
    Reply (.leave operation) × Situation μ :=
  match limiter with
  | .none => (if s.cancelled then .cancelled else .answered (), s)
  | .bucket =>
    let waited := s.toCaller.wait moment.naps
    (if waited.1 then .answered () else .failed (.cancelled "rate limit wait"),
      { s with toCaller := waited.2 })

/-- A call of the mailbox or of the loader, in a race with the cancellation. -/
def call (s : Situation μ) (service : Service μ) (moment : Moment) (r : Request) :
    Reply r × Situation μ :=
  if s.cancelled && moment.preempted then (.cancelled, s)
  else
    let result := (service.answer r).run s.memory
    let cancelled := s.cancelled || moment.cancelsDuring
    (if cancelled && moment.abandoned then .cancelled else .ofExcept result.1,
      { s with cancelled, memory := result.2, issued := s.issued ++ [r] })

end Situation

/-- The surroundings of an audit in a course of things. -/
def interleaved (service : Service μ) (limiter : Limiter) (course : Course μ) :
    Surroundings (StateM (Situation μ)) where
  reply r := fun s =>
    match r with
    | .leave operation => (s.enter (course s)).leave limiter (course s) operation
    | r => (s.enter (course s)).call service (course s) r

/-- The audit is cancelled when it makes its next request. -/
def Course.cancelsNext (course : Course μ) (s : Situation μ) : Bool := (s.enter (course s)).cancelled

section Steps

variable (service : Service μ) (limiter : Limiter) (course : Course μ) (s : Situation μ)

/-- A wait that a cancelled audit enters ends the audit and changes nothing. -/
theorem Situation.leave_of_cancelled {s : Situation μ} (cancelled : s.cancelled = true)
    (moment : Moment) (operation : String) :
    (s.leave limiter moment operation).1.settle = .error (.cancelled operation) ∧
      (s.leave limiter moment operation).2 = s := by
  cases limiter with
  | none => simp [leave, cancelled, Reply.settle, Request.operation]
  | bucket =>
    rw [leave, Caller.wait_of_cancelled cancelled]
    exact ⟨rfl, rfl⟩

/-- Leave is refused to an audit that is cancelled when it asks, and no call is begun. -/
theorem interleaved_leave_of_cancelled (operation : String) (cancelled : course.cancelsNext s = true) :
    (((interleaved service limiter course).reply (.leave operation)).run s).1.settle =
        .error (.cancelled operation) ∧
      (((interleaved service limiter course).reply (.leave operation)).run s).2.issued = s.issued := by
  obtain ⟨refused, same⟩ := Situation.leave_of_cancelled limiter cancelled (course s) operation
  have issued : ((s.enter (course s)).leave limiter (course s) operation).2.issued = s.issued := by
    rw [same]
    rfl
  exact ⟨refused, issued⟩

/-- A call of a cancelled audit leaves it cancelled. -/
theorem Situation.cancelled_call {s : Situation μ} (cancelled : s.cancelled = true) (moment : Moment)
    (r : Request) : (s.call service moment r).2.cancelled = true := by
  unfold call
  split
  · exact cancelled
  · simp [cancelled]

theorem Situation.issued_call (moment : Moment) (r : Request) :
    ∃ made, made.Sublist [r] ∧ (s.call service moment r).2.issued = s.issued ++ made := by
  unfold call
  split
  · exact ⟨[], List.nil_sublist _, (List.append_nil _).symm⟩
  · exact ⟨[r], List.Sublist.refl _, rfl⟩

theorem Situation.issued_leave (moment : Moment) (operation : String) :
    (s.leave limiter moment operation).2.issued = s.issued := by
  cases limiter with
  | none => rfl
  | bucket => rfl

/-- What a request begins is the call that it asks for, or nothing. -/
theorem interleaved_issued (r : Request) : ∃ made, made.Sublist ([r].filter Request.isCall) ∧
    (((interleaved service limiter course).reply r).run s).2.issued = s.issued ++ made := by
  cases r with
  | leave operation =>
    refine ⟨[], List.nil_sublist _, ?_⟩
    rw [List.append_nil]
    exact Situation.issued_leave limiter (s.enter (course s)) (course s) operation
  | labels => exact Situation.issued_call service (s.enter (course s)) (course s) .labels
  | page query token size =>
    exact Situation.issued_call service (s.enter (course s)) (course s) (.page query token size)
  | metadata id headers =>
    exact Situation.issued_call service (s.enter (course s)) (course s) (.metadata id headers)
  | filters => exact Situation.issued_call service (s.enter (course s)) (course s) .filters

/-- The calls that are begun are some of those that are requested, in their order. -/
theorem interleaved_issued_stateAfter (requests : List Request) :
    ∃ made, made.Sublist (requests.filter Request.isCall) ∧
      ((interleaved service limiter course).stateAfter s requests).issued = s.issued ++ made := by
  induction requests generalizing s with
  | nil => exact ⟨[], List.Sublist.refl [], (List.append_nil _).symm⟩
  | cons r rest ih =>
    obtain ⟨first, isFirst, begun⟩ := interleaved_issued service limiter course s r
    obtain ⟨later, areLater, further⟩ := ih (((interleaved service limiter course).reply r).run s).2
    refine ⟨first ++ later, ?_, ?_⟩
    · rw [← List.singleton_append, List.filter_append]
      exact isFirst.append areLater
    · rw [begun, List.append_assoc] at further
      exact further

end Steps

namespace Script

variable (script : Script)

/-- The mailbox and the loader of a script. -/
def service : Service Unit where
  answer
    | .labels => pure script.labels
    | .leave _ => pure (.ok ())
    | .page _ token _ => pure <|
      match script.pages.find? (·.1 = token) with
      | some page => page.2
      | none => .ok ⟨[], ""⟩
    | .metadata id _ => pure <|
      match script.messages.find? (·.1 = id) with
      | some message => message.2
      | none => .error (.notFound id)
    | .filters => pure script.filters

/-- The course of a rehearsal: nothing happens but the cancellation during the call that the script
names; no call is begun after it, and the call itself is lost to it if the script says so. -/
def course : Course Unit := fun s =>
  { cancelsBefore := false
    elapsed := 0
    others := id
    naps := [.undisturbed]
    cancelsDuring := script.cancelAt == some s.issued.length
    preempted := true
    abandoned := script.hangs }

/-- The limiter of a script, if it is not a scripted one. -/
def limiter? : Option Limiter :=
  match script.pacing with
  | .none => some .none
  | .bucket _ => some .bucket
  | .scripted _ _ _ => none

/-- How things stand in a rehearsal. -/
def State.situation (s : State) (steps : Nat) : Situation Unit :=
  ⟨⟨s.cancelled, s.now, s.bucket⟩, steps, s.calls, ()⟩

theorem enter_situation (s : State) (steps : Nat) :
    (s.situation steps).enter (script.course (s.situation steps)) = s.situation (steps + 1) := by
  have standing : Caller.mk (s.cancelled || false) (s.now + 0) s.bucket =
      ⟨s.cancelled, s.now, s.bucket⟩ := by
    rw [Bool.or_false, Rat.add_zero]
  exact congrArg (fun caller => Situation.mk caller (steps + 1) s.calls ()) standing

theorem ofExcept_eq (r : Request) (result : Except r.Failure r.Answer) :
    scripted.ofExcept result = Reply.ofExcept result := by
  cases result with
  | ok answer => rfl
  | error cause => rfl

theorem scripted_eq (r : Request) :
    script.scripted r = .ofExcept ((script.service.answer r).run ()).1 := by
  cases r with
  | labels => exact ofExcept_eq .labels script.labels
  | leave operation => rfl
  | page query token size =>
    simp only [scripted, service]
    cases script.pages.find? (·.1 = token) with
    | none => rfl
    | some page => exact ofExcept_eq (.page query token size) page.2
  | metadata id headers =>
    simp only [scripted, service]
    cases script.messages.find? (·.1 = id) with
    | none => rfl
    | some message => exact ofExcept_eq (.metadata id headers) message.2
  | filters => exact ofExcept_eq .filters script.filters

theorem run_call (r : Request) (s : State) :
    (script.call r).run s =
      if s.cancelled then (.cancelled, s)
      else (if (s.record script r).cancelled && script.hangs then .cancelled else script.scripted r,
        s.record script r) := by
  cases cancelled : s.cancelled with
  | true =>
    simp only [call, cancelled, StateT.run_bind, StateT.run_get, pure_bind, if_true]
    rfl
  | false =>
    simp only [call, cancelled, StateT.run_bind, StateT.run_get, pure_bind]
    rfl

/-- A call of a rehearsal is a call in its course. -/
theorem call_eq (r : Request) (s : State) (steps : Nat) :
    (s.situation (steps + 1)).call script.service (script.course (s.situation steps)) r =
      (((script.call r).run s).1, ((script.call r).run s).2.situation (steps + 1)) := by
  rw [run_call]
  cases cancelled : s.cancelled with
  | true => simp [Situation.call, State.situation, course, cancelled]
  | false => simp [Situation.call, State.situation, course, cancelled, State.record, scripted_eq]

/-- Leave in a rehearsal means what it means in its course. -/
theorem leave_agrees {script : Script} {limiter : Limiter} (paced : script.limiter? = some limiter)
    (operation : String) (s : State) (steps : Nat) :
    let rehearsed := (script.leave operation).run s
    let interleaved :=
      (s.situation (steps + 1)).leave limiter (script.course (s.situation steps)) operation
    rehearsed.1.settle = interleaved.1.settle ∧
      ∀ answer, rehearsed.1.settle = .ok answer → interleaved.2 = rehearsed.2.situation (steps + 1) := by
  intro rehearsed interleaved
  cases pacing : script.pacing with
  | none =>
    obtain rfl : Limiter.none = limiter := by simpa [limiter?, pacing] using paced
    have left : rehearsed = (if s.cancelled then .cancelled else .answered (), s) := by
      simp only [rehearsed, leave, pacing, StateT.run_bind, StateT.run_get, pure_bind]
      rfl
    rw [left]
    exact ⟨rfl, fun _ _ => rfl⟩
  | bucket burst =>
    obtain rfl : Limiter.bucket = limiter := by simpa [limiter?, pacing] using paced
    have left : rehearsed =
        (if (s.bucket.wait s.now s.cancelled).1 then .answered () else .cancelled,
          { s with
            now := (s.bucket.wait s.now s.cancelled).2.1
            bucket := (s.bucket.wait s.now s.cancelled).2.2 }) := by
      simp only [rehearsed, leave, pacing, StateT.run_bind, StateT.run_get, pure_bind]
      rfl
    obtain ⟨same, state⟩ := Caller.wait_undisturbed ⟨s.cancelled, s.now, s.bucket⟩
    have waited : interleaved =
        (if ((Caller.mk s.cancelled s.now s.bucket).wait [.undisturbed]).1 then .answered ()
          else .failed (.cancelled "rate limit wait"),
          ⟨((Caller.mk s.cancelled s.now s.bucket).wait [.undisturbed]).2, steps + 1, s.calls, ()⟩) := rfl
    rw [left, waited, same]
    cases granted : (s.bucket.wait s.now s.cancelled).1 with
    | true =>
      rw [state granted]
      exact ⟨rfl, fun _ _ => rfl⟩
    | false => exact ⟨rfl, fun _ settled => nomatch settled⟩
  | scripted failAt error cancels => simp [limiter?, pacing] at paced

/-- Every request of a rehearsal comes to what it comes to in its course, and if it is answered,
things stand as they do in the rehearsal. -/
theorem reply_agrees {script : Script} {limiter : Limiter} (paced : script.limiter? = some limiter)
    (r : Request) (s : State) (steps : Nat) :
    let rehearsed := (script.surroundings.reply r).run s
    let interleaved :=
      ((interleaved script.service limiter script.course).reply r).run (s.situation steps)
    rehearsed.1.settle = interleaved.1.settle ∧
      ∀ answer, rehearsed.1.settle = .ok answer → interleaved.2 = rehearsed.2.situation (steps + 1) := by
  have entered := enter_situation script s steps
  have called := call_eq script r s steps
  rw [← entered] at called
  have agrees : ((script.call r).run s).1.settle =
        (((s.situation steps).enter (script.course (s.situation steps))).call script.service
          (script.course (s.situation steps)) r).1.settle ∧
      ∀ answer, ((script.call r).run s).1.settle = .ok answer →
        (((s.situation steps).enter (script.course (s.situation steps))).call script.service
          (script.course (s.situation steps)) r).2 = ((script.call r).run s).2.situation (steps + 1) := by
    rw [called]
    exact ⟨rfl, fun _ _ => rfl⟩
  cases r with
  | labels => exact agrees
  | leave operation =>
    have left := leave_agrees paced operation s steps
    rw [← entered] at left
    exact left
  | page query token size => exact agrees
  | metadata id headers => exact agrees
  | filters => exact agrees

/-- What a rehearsal without a scripted limiter shows is what happens in its course. -/
theorem rehearsal_interleaved {script : Script} {limiter : Limiter}
    (paced : script.limiter? = some limiter) (s : State) (options : Options) (hasFilters : Bool)
    (time : Time.Instant) (limit : Nat) :
    ((run script.surroundings options hasFilters time limit).run s).1 =
      ((run (interleaved script.service limiter script.course) options hasFilters time limit).run
        (s.situation 0)).1 := by
  cases ready : options.resolved with
  | error e =>
    rw [run_of_unusable _ hasFilters time limit ready, run_of_unusable _ hasFilters time limit ready]
    rfl
  | ok resolved =>
    rw [run_of_resolved _ hasFilters time limit ready, run_of_resolved _ hasFilters time limit ready]
    let stands (s : State) (t : Situation Unit) : Prop := ∃ steps, t = s.situation steps
    have agree : ∀ r s t, stands s t →
        ((script.surroundings.reply r).run s).1.settle =
            (((interleaved script.service limiter script.course).reply r).run t).1.settle ∧
          ∀ answer, ((script.surroundings.reply r).run s).1.settle = .ok answer →
            stands ((script.surroundings.reply r).run s).2
              (((interleaved script.service limiter script.course).reply r).run t).2 := by
      rintro r s _ ⟨steps, rfl⟩
      obtain ⟨same, further⟩ := reply_agrees paced r s steps
      exact ⟨same, fun answer settled => ⟨steps + 1, further answer settled⟩⟩
    exact outcomeFrom_eq_of_simulation agree limit ⟨0, rfl⟩ (.ask .labels)

end Script

end InboxAudit.Audit
