import InboxAudit.Mail.Retry
import InboxAudit.Proofs.Collections.Outcomes
import Mathlib.Algebra.Group.Nat.Defs

/-!
# What retrying does

One attempt ends a call that is retried, or leads to a pause and the rest of the call (`run_retryFrom_of_settled`,
`run_retryFrom_of_transient`). A call is run here against a script that says how each attempt goes, and attempts and
pauses are written down, so a run is known event by event: attempts with one pause between them, up to the first
outcome that is no transient failure or to the last attempt that is allowed (`retry_exact`).
-/

namespace InboxAudit.Mail
set_option autoImplicit false

variable {α : Type}

/-- What happens while a call is retried; attempts are numbered from zero. -/
inductive RetryEvent where
  | attempt (number : Nat)
  | pause (seconds : Nat)
  deriving Repr, DecidableEq

/-- How far a retried call has come: the number of its attempts, and what happened in order. -/
structure RetryState where
  attempts : Nat
  events : List RetryEvent
  deriving Repr, DecidableEq

namespace RetryState

/-- Nothing has happened. -/
def start : RetryState := ⟨0, []⟩

/-- One attempt more. -/
def attempted (s : RetryState) : RetryState := ⟨s.attempts + 1, s.events ++ [.attempt s.attempts]⟩

/-- One pause more. -/
def paused (seconds : Nat) (s : RetryState) : RetryState := { s with events := s.events ++ [.pause seconds] }

end RetryState

/-- An attempt that goes as the script says. -/
def scriptedAttempt (script : Nat → Except MailboxError α) : StateM RetryState (Except MailboxError α) :=
  modifyGet fun s => (script s.attempts, s.attempted)

/-- A pause that is written down. -/
def writtenPause (seconds : Nat) : StateM RetryState Unit := modify (RetryState.paused seconds)

/-- The outcome is a transient failure. -/
def failsForNow : Except MailboxError α → Bool
  | .ok _ => false
  | .error e => e.isTransient

/-- The pause after an attempt: a second after the first one and twice as long after each further one up to half a
minute, or longer where the mailbox asks for it. -/
def pauseAfterAttempt (number : Nat) : Except MailboxError α → Nat
  | .error (.rateLimited asked) => max (min (2 ^ number) 30) asked
  | _ => min (2 ^ number) 30

theorem failsForNow_iff {outcome : Except MailboxError α} :
    failsForNow outcome = true ↔ ∃ e, outcome = .error e ∧ e.isTransient = true := by
  cases outcome with
  | ok value => simp [failsForNow]
  | error e => simp [failsForNow]

section Step

variable {σ : Type} {attempt : StateM σ (Except MailboxError α)} {wait : Nat → StateM σ Unit} {s : σ}

/-- An attempt that is no transient failure is the whole call. -/
theorem run_retryFrom_of_settled (settled : failsForNow (attempt.run s).1 = false) (retries delay : Nat) :
    (retryFrom attempt wait retries delay).run s = attempt.run s := by
  cases retries with
  | zero => rfl
  | succ retries =>
    rw [retryFrom, run_bind]
    cases outcome : (attempt.run s).1 with
    | ok value => exact Prod.ext outcome.symm rfl
    | error e =>
      rw [outcome] at settled
      have permanent : ¬ e.isTransient = true := Bool.eq_false_iff.1 settled
      dsimp only
      rw [if_neg permanent]
      exact Prod.ext outcome.symm rfl

/-- A transient failure is followed by a pause and a call with one retry less. -/
theorem run_retryFrom_of_transient {e : MailboxError} (failed : (attempt.run s).1 = .error e)
    (transient : e.isTransient = true) (retries delay : Nat) :
    (retryFrom attempt wait (retries + 1) delay).run s =
      (retryFrom attempt wait retries (nextDelay delay)).run
        ((wait (pauseAfter delay e)).run (attempt.run s).2).2 := by
  rw [retryFrom, run_bind, failed]
  dsimp only
  rw [if_pos transient, run_bind]

end Step

section Runs

variable (script : Nat → Except MailboxError α)

/-- Some attempts from a number on, with the pauses after them. -/
def rounds (first count : Nat) : List RetryEvent :=
  (List.range' first count).flatMap fun i => [.attempt i, .pause (pauseAfterAttempt i (script i))]

/-- How often an attempt from a number on is followed by another one, if so many may follow. -/
def repeats (first retries : Nat) : Nat :=
  (List.range' first retries).findIdx fun i => !failsForNow (script i)

theorem nextDelay_pow (i : Nat) : nextDelay (min (2 ^ i) 30) = min (2 ^ (i + 1)) 30 := by
  rw [nextDelay, Nat.pow_succ]
  omega

theorem pauseAfter_pow (i : Nat) (e : MailboxError) :
    pauseAfter (min (2 ^ i) 30) e = pauseAfterAttempt i (.error e : Except MailboxError α) := by
  cases e <;> rfl

/-- The first attempt of a run ends it, or is followed by a pause and a run with one retry less. -/
theorem run_retryFrom_succ (retries delay : Nat) (s : RetryState) :
    (retryFrom (scriptedAttempt script) writtenPause (retries + 1) delay).run s =
      match script s.attempts with
      | .ok value => (.ok value, s.attempted)
      | .error e =>
        if e.isTransient then
          (retryFrom (scriptedAttempt script) writtenPause retries (nextDelay delay)).run
            (s.attempted.paused (pauseAfter delay e))
        else (.error e, s.attempted) := by
  have first : (scriptedAttempt script).run s = (script s.attempts, s.attempted) := rfl
  cases outcome : script s.attempts with
  | ok value =>
    rw [outcome] at first
    rw [run_retryFrom_of_settled (by rw [first]; rfl), first]
  | error e =>
    rw [outcome] at first
    dsimp only
    split
    · next transient => rw [run_retryFrom_of_transient (by rw [first]) transient, first]; rfl
    · next permanent =>
      have settled : failsForNow ((scriptedAttempt script).run s).1 = false := by
        rw [first]
        exact Bool.eq_false_iff.2 permanent
      rw [run_retryFrom_of_settled settled, first]

theorem repeats_zero (first : Nat) : repeats script first 0 = 0 := rfl

theorem repeats_succ (first retries : Nat) : repeats script first (retries + 1) =
    if failsForNow (script first) then repeats script (first + 1) retries + 1 else 0 := by
  rw [repeats, List.range'_succ, List.findIdx_cons]
  cases failsForNow (script first) <;> rfl

/-- Attempts are repeated up to the first outcome that is no transient failure. -/
theorem repeats_eq_min {first k : Nat} (from_first : first ≤ k) (settled : failsForNow (script k) = false)
    (before : ∀ i, first ≤ i → i < k → failsForNow (script i) = true) (retries : Nat) :
    repeats script first retries = min (k - first) retries := by
  induction retries generalizing first with
  | zero => rw [repeats_zero, Nat.min_zero]
  | succ retries ih =>
    rw [repeats_succ]
    rcases Nat.eq_or_lt_of_le from_first with rfl | less
    · rw [if_neg (by rw [settled]; exact Bool.false_ne_true)]
      omega
    · rw [if_pos (before first (Nat.le_refl _) less),
        ih less fun i above below => before i (Nat.le_of_succ_le above) below]
      omega

/-- Where all outcomes are transient failures, all repeats that are allowed are made. -/
theorem repeats_eq_self {script : Nat → Except MailboxError α} (all : ∀ i, failsForNow (script i) = true)
    (first retries : Nat) : repeats script first retries = retries := by
  induction retries generalizing first with
  | zero => rfl
  | succ retries ih => rw [repeats_succ, if_pos (all first), ih]

theorem rounds_succ (first count : Nat) : rounds script first (count + 1) =
    [.attempt first, .pause (pauseAfterAttempt first (script first))] ++ rounds script (first + 1) count := by
  rw [rounds, List.range'_succ, List.flatMap_cons, rounds]

/-- A run from any attempt on makes its repeats with a pause after each, and then the attempt that decides. -/
theorem run_retryFrom (retries : Nat) (s : RetryState) :
    (retryFrom (scriptedAttempt script) writtenPause retries (min (2 ^ s.attempts) 30)).run s =
      let last := s.attempts + repeats script s.attempts retries
      (script last, ⟨last + 1,
        s.events ++ rounds script s.attempts (repeats script s.attempts retries) ++ [.attempt last]⟩) := by
  -- The pause that is due is known from the number of the attempt, which keeps the two in step.
  induction retries generalizing s with
  | zero =>
    rw [repeats_zero, rounds, List.range'_zero, List.flatMap_nil, List.append_nil, Nat.add_zero]
    rfl
  | succ retries ih =>
    rw [run_retryFrom_succ, repeats_succ]
    cases outcome : script s.attempts with
    | ok value => simp [failsForNow, outcome, rounds, RetryState.attempted]
    | error e =>
      cases transient : e.isTransient with
      | false => simp [failsForNow, transient, outcome, rounds, RetryState.attempted]
      | true =>
        have goesOn : failsForNow (.error e : Except MailboxError α) = true := transient
        have rest := ih (s.attempted.paused (pauseAfterAttempt s.attempts (script s.attempts)))
        have counted : (s.attempted.paused (pauseAfterAttempt s.attempts (script s.attempts))).attempts =
            s.attempts + 1 := rfl
        have number : s.attempts + 1 + repeats script (s.attempts + 1) retries =
            s.attempts + (repeats script (s.attempts + 1) retries + 1) := by omega
        rw [counted, outcome, ← pauseAfter_pow] at rest
        dsimp only
        rw [if_pos transient, if_pos goesOn, nextDelay_pow, rest, rounds_succ, outcome, ← pauseAfter_pow, number]
        simp [RetryState.attempted, RetryState.paused]

/-- The number of the attempt that decides, if so many retries are allowed. -/
def lastAttempt (retries : Nat) : Nat := repeats script 0 retries

/-- A retried call makes one attempt and as many more as it has to, but not more than `retries`: if the outcome with
the number `k` is the first that is no transient failure, these are `k + 1` attempts or one more than `retries`,
whichever is less, and if there is no such outcome it is the latter. It returns the outcome of the last attempt. One
pause follows each attempt but the last. -/
theorem retry_exact (retries : Nat) :
    (∀ k, failsForNow (script k) = false → (∀ i < k, failsForNow (script i) = true) →
      lastAttempt script retries + 1 = min (k + 1) (retries + 1)) ∧
    ((∀ i, failsForNow (script i) = true) → lastAttempt script retries + 1 = retries + 1) ∧
    (retry (scriptedAttempt script) writtenPause retries).run RetryState.start =
      (script (lastAttempt script retries),
        ⟨lastAttempt script retries + 1,
          rounds script 0 (lastAttempt script retries) ++ [.attempt (lastAttempt script retries)]⟩) := by
  refine ⟨fun k settled before => ?_, fun all => ?_, ?_⟩
  · rw [lastAttempt, repeats_eq_min script (Nat.zero_le k) settled (fun i _ less => before i less), Nat.sub_zero]
    omega
  · rw [lastAttempt, repeats_eq_self all]
  · have run := run_retryFrom script retries RetryState.start
    simpa [retry, firstDelay, RetryState.start, lastAttempt] using run

end Runs

/-- A longer pause that the mailbox asks for does not make the later ones longer. -/
example :
    let script (i : Nat) : Except MailboxError String :=
      if i = 0 then .error (.rateLimited 9) else if i < 3 then .error (.network "reset") else .ok "done"
    ((retry (scriptedAttempt script) writtenPause 2).run RetryState.start).2.events =
        [.attempt 0, .pause 9, .attempt 1, .pause 2, .attempt 2] ∧
      ((retry (scriptedAttempt script) writtenPause 3).run RetryState.start).2.events =
        [.attempt 0, .pause 9, .attempt 1, .pause 2, .attempt 2, .pause 4, .attempt 3] := by
  decide

end InboxAudit.Mail
