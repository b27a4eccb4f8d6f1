import InboxAudit.Pace.TokenBucket
import Mathlib.Algebra.Order.Field.Rat
import Mathlib.Data.List.Count
import Mathlib.Tactic.Linarith

/-!
# What a token bucket gives out

A ledger notes what the holders of a bucket do with it and what comes of it: the tokens granted with their times,
the waits it asked for and the levels it showed. All holders share the one bucket, so it does not matter which of
them acts. The tokens granted since any moment and those still in the bucket are together no more than a full
bucket and what came back since that moment (`IsKept.spent`): filling the bucket keeps this as time goes by, and a
grant takes from the one what it adds to the other. So no history grants more between two moments than that
(`grants_at_most`).
-/

namespace InboxAudit.Pace
set_option autoImplicit false

namespace TokenBucket

variable (now : Rat) (b : TokenBucket)

theorem available_refill : (b.refill now).available =
    min (b.available + (now - b.refilledAt) * b.rate) b.capacity :=
  (min_def _ _).symm

@[simp] theorem capacity_refill : (b.refill now).capacity = b.capacity := rfl

@[simp] theorem rate_refill : (b.refill now).rate = b.rate := rfl

@[simp] theorem refilledAt_refill : (b.refill now).refilledAt = now := rfl

@[simp] theorem acquired_refill : (b.refill now).acquired = b.acquired := rfl

/-- The bucket with one token less. -/
def granted (b : TokenBucket) : TokenBucket :=
  { b with available := b.available - 1, acquired := b.acquired + 1 }

/-- The seconds until there is a token in a bucket without one. -/
def shortage (b : TokenBucket) : Rat := (1 - b.available) / b.rate

/-- An attempt fills the bucket, and takes a token if there is one. -/
theorem take_eq : b.take now = if 1 ≤ (b.refill now).available then (.granted, (b.refill now).granted)
    else (.short (b.refill now).shortage, b.refill now) := rfl

end TokenBucket

/-- What a holder of a bucket does with it. -/
inductive Action where
  | refill
  | take
  | stats
  /-- One turn of a wait, for a caller that is cancelled or not. -/
  | turn (cancelled : Bool)
  deriving Repr, DecidableEq

/-- The clock does not run backwards, from the start on. -/
def IsClock (start : Rat) (history : List (Rat × Action)) : Prop :=
  (start :: history.map Prod.fst).Pairwise (· ≤ ·)

instance (start : Rat) (history : List (Rat × Action)) : Decidable (IsClock start history) :=
  inferInstanceAs (Decidable (List.Pairwise _ _))

/-- A bucket and what came of the actions on it, the last one first: the times of the tokens granted, the waits in
seconds that were asked for, and what was shown. -/
structure Ledger where
  bucket : TokenBucket
  grants : List Rat
  waits : List Rat
  shown : List TokenBucket.Stats

namespace Ledger

/-- A bucket on which nothing was done. -/
def opened (b : TokenBucket) : Ledger := ⟨b, [], [], []⟩

/-- The ledger after a token was granted. -/
def grant (now : Rat) (b : TokenBucket) (l : Ledger) : Ledger :=
  { l with bucket := b, grants := now :: l.grants }

/-- The ledger after a wait was asked for. -/
def delay (seconds : Rat) (b : TokenBucket) (l : Ledger) : Ledger :=
  { l with bucket := b, waits := seconds :: l.waits }

/-- The ledger after an action at some time. -/
def act (l : Ledger) : Rat × Action → Ledger
  | (now, .refill) => { l with bucket := l.bucket.refill now }
  | (now, .take) =>
    match l.bucket.take now with
    | (.granted, b) => l.grant now b
    | (.short seconds, b) => l.delay seconds b
  | (now, .stats) =>
    let (shown, b) := l.bucket.stats now
    { l with bucket := b, shown := shown :: l.shown }
  | (now, .turn cancelled) =>
    match l.bucket.turn now cancelled with
    | (.granted, b) => l.grant now b
    | (.cancelled, b) => { l with bucket := b }
    | (.sleep seconds, b) => l.delay seconds b

/-- The ledger after some actions in order. -/
def after (l : Ledger) (history : List (Rat × Action)) : Ledger := history.foldl act l

/-- How many tokens were granted since a moment. -/
def grantedSince (l : Ledger) (t : Rat) : Nat := l.grants.countP fun g => t ≤ g

/-- How many tokens were granted between two moments. -/
def grantedBetween (l : Ledger) (t u : Rat) : Nat := l.grants.countP fun g => t ≤ g ∧ g ≤ u

/-- What holds of a ledger at all times, for a bucket with some capacity and rate. -/
structure IsKept (capacity rate : Nat) (l : Ledger) : Prop where
  capacity_eq : l.bucket.capacity = capacity
  rate_eq : l.bucket.rate = rate
  nonneg : 0 ≤ l.bucket.available
  full : l.bucket.available ≤ capacity
  counted : l.bucket.acquired = l.grants.length
  past : ∀ g ∈ l.grants, g ≤ l.bucket.refilledAt
  spent : ∀ t ≤ l.bucket.refilledAt,
    l.grantedSince t + l.bucket.available ≤ capacity + rate * (l.bucket.refilledAt - t)
  between : ∀ t u, t ≤ u → (l.grantedBetween t u : Rat) ≤ capacity + rate * (u - t)
  waited : ∀ seconds ∈ l.waits, 0 < seconds ∧ seconds ≤ 1 / rate
  seen : ∀ s ∈ l.shown, 0 ≤ s.available ∧ s.available ≤ capacity

section Kept

variable {capacity rate : Nat} {l : Ledger} {now : Rat}

theorem grantedBetween_le_grantedSince (t u : Rat) : l.grantedBetween t u ≤ l.grantedSince t := by
  apply List.countP_mono_left
  intro g _ between
  simp only [decide_eq_true_eq] at between ⊢
  exact between.1

theorem IsKept.grantedSince_eq_zero (h : l.IsKept capacity rate) {t : Rat} (late : l.bucket.refilledAt < t) :
    l.grantedSince t = 0 := by
  rw [grantedSince, List.countP_eq_zero]
  intro g mem
  have before : g < t := lt_of_le_of_lt (h.past g mem) late
  simpa using before

/-- A full bucket and what comes back in some time that does not run backwards. -/
theorem le_capacity_add {x : Rat} (full : x ≤ capacity) {t u : Rat} (le : t ≤ u) :
    x ≤ capacity + rate * (u - t) := by
  have back : 0 ≤ (rate : Rat) * (u - t) := mul_nonneg (Nat.cast_nonneg rate) (by linarith)
  linarith

/-- What comes back as time goes by is what the bound grows by. -/
theorem IsKept.refill (h : l.IsKept capacity rate) (le : l.bucket.refilledAt ≤ now) :
    IsKept capacity rate { l with bucket := l.bucket.refill now } := by
  have nonneg := h.nonneg
  have back : 0 ≤ (now - l.bucket.refilledAt) * (rate : Rat) :=
    mul_nonneg (by linarith) (Nat.cast_nonneg rate)
  have level : (l.bucket.refill now).available =
      min (l.bucket.available + (now - l.bucket.refilledAt) * rate) capacity := by
    rw [TokenBucket.available_refill, h.capacity_eq, h.rate_eq]
  have full : (l.bucket.refill now).available ≤ capacity := level ▸ min_le_right _ _
  have spent (t : Rat) (before : t ≤ now) :
      l.grantedSince t + (l.bucket.refill now).available ≤ capacity + rate * (now - t) := by
    rcases le_or_gt t l.bucket.refilledAt with early | late
    · have earlier := h.spent t early
      have more : (l.bucket.refill now).available ≤
          l.bucket.available + (now - l.bucket.refilledAt) * rate := level ▸ min_le_left _ _
      linarith
    · rw [h.grantedSince_eq_zero late, Nat.cast_zero, zero_add]
      exact le_capacity_add full before
  exact { h with
    nonneg := level ▸ le_min (by linarith) (Nat.cast_nonneg capacity)
    full := full
    past := fun g mem => (h.past g mem).trans le
    spent := spent }

/-- A grant takes a token from the bucket and adds one to those granted since any moment before it. -/
theorem IsKept.grant (h : l.IsKept capacity rate) (enough : 1 ≤ l.bucket.available) :
    IsKept capacity rate (l.grant l.bucket.refilledAt l.bucket.granted) := by
  have spent (t : Rat) (before : t ≤ l.bucket.refilledAt) :
      ((l.grant l.bucket.refilledAt l.bucket.granted).grantedSince t : Rat) + (l.bucket.available - 1) ≤
        capacity + rate * (l.bucket.refilledAt - t) := by
    have earlier := h.spent t before
    have more : (l.grant l.bucket.refilledAt l.bucket.granted).grantedSince t = l.grantedSince t + 1 :=
      List.countP_cons_of_pos (by simpa using before)
    rw [more, Nat.cast_succ]
    linarith
  have between (t u : Rat) (le : t ≤ u) :
      ((l.grant l.bucket.refilledAt l.bucket.granted).grantedBetween t u : Rat) ≤ capacity + rate * (u - t) := by
    by_cases inside : t ≤ l.bucket.refilledAt ∧ l.bucket.refilledAt ≤ u
    · have few : ((l.grant l.bucket.refilledAt l.bucket.granted).grantedBetween t u : Rat) ≤
          (l.grant l.bucket.refilledAt l.bucket.granted).grantedSince t :=
        Nat.cast_le.2 (grantedBetween_le_grantedSince t u)
      have grown : (rate : Rat) * (l.bucket.refilledAt - t) ≤ rate * (u - t) :=
        mul_le_mul_of_nonneg_left (by linarith [inside.2]) (Nat.cast_nonneg rate)
      linarith [spent t inside.1]
    · have same : (l.grant l.bucket.refilledAt l.bucket.granted).grantedBetween t u = l.grantedBetween t u :=
        List.countP_cons_of_neg (by simpa using inside)
      rw [same]
      exact h.between t u le
  exact { h with
    nonneg := sub_nonneg.2 enough
    full := by
      show l.bucket.available - 1 ≤ capacity
      linarith [h.full]
    counted := congrArg (· + 1) h.counted
    past := List.forall_mem_cons.2 ⟨le_refl _, h.past⟩
    spent := spent
    between := between }

/-- A caller waits because a part of a token is missing, which comes back in less than one token's time. -/
theorem IsKept.delay (h : l.IsKept capacity rate) (positive : 0 < rate) (short : l.bucket.available < 1)
    (waits : Nat) : IsKept capacity rate (l.delay l.bucket.shortage { l.bucket with waits := waits }) := by
  have positive' : (0 : Rat) < rate := Nat.cast_pos.2 positive
  have shortage : l.bucket.shortage = (1 - l.bucket.available) / rate := by
    rw [TokenBucket.shortage, h.rate_eq]
  have bounds : 0 < l.bucket.shortage ∧ l.bucket.shortage ≤ 1 / rate := by
    rw [shortage]
    refine ⟨div_pos (by linarith) positive', ?_⟩
    exact div_le_div_of_nonneg_right (by linarith [h.nonneg]) positive'.le
  exact { h with waited := List.forall_mem_cons.2 ⟨bounds, h.waited⟩ }

theorem IsKept.see (h : l.IsKept capacity rate) {shown : TokenBucket.Stats}
    (level : shown.available = l.bucket.available) :
    IsKept capacity rate { l with shown := shown :: l.shown } :=
  { h with seen := List.forall_mem_cons.2 ⟨level ▸ ⟨h.nonneg, h.full⟩, h.seen⟩ }

/-- Each action keeps the ledger, and leaves a bucket that was filled no later than then. -/
theorem IsKept.act (h : l.IsKept capacity rate) (positive : 0 < rate) (le : l.bucket.refilledAt ≤ now)
    (action : Action) :
    IsKept capacity rate (l.act (now, action)) ∧ (l.act (now, action)).bucket.refilledAt ≤ now := by
  have filled := h.refill le
  cases action with
  | refill => exact ⟨filled, le_refl now⟩
  | stats => exact ⟨filled.see rfl, le_refl now⟩
  | take =>
    simp only [Ledger.act, TokenBucket.take_eq]
    by_cases enough : 1 ≤ (l.bucket.refill now).available
    · rw [if_pos enough]
      exact ⟨filled.grant enough, le_refl now⟩
    · rw [if_neg enough]
      exact ⟨filled.delay positive (not_le.1 enough) l.bucket.waits, le_refl now⟩
  | turn cancelled =>
    cases cancelled with
    | true => exact ⟨h, le⟩
    | false =>
      simp only [Ledger.act, TokenBucket.turn, TokenBucket.take_eq]
      by_cases enough : 1 ≤ (l.bucket.refill now).available
      · simp only [if_pos enough]
        exact ⟨filled.grant enough, le_refl now⟩
      · simp only [if_neg enough]
        exact ⟨filled.delay positive (not_le.1 enough) (l.bucket.waits + 1), le_refl now⟩

/-- Every history keeps the ledger. -/
theorem IsKept.after (h : l.IsKept capacity rate) (positive : 0 < rate) {history : List (Rat × Action)}
    (ordered : IsClock l.bucket.refilledAt history) : IsKept capacity rate (l.after history) := by
  induction history generalizing l with
  | nil => exact h
  | cons step rest ih =>
    obtain ⟨now, action⟩ := step
    obtain ⟨past, later⟩ := List.pairwise_cons.1 ordered
    obtain ⟨kept, before⟩ := h.act positive (past now List.mem_cons_self) action
    obtain ⟨next, others⟩ := List.pairwise_cons.1 later
    exact ih kept (List.pairwise_cons.2 ⟨fun t mem => before.trans (next t mem), others⟩)

end Kept

theorem isKept_opened (rate burst : Nat) (start : Rat) :
    IsKept (max burst 1) (max rate 1) (opened (.new rate burst start)) where
  capacity_eq := rfl
  rate_eq := rfl
  nonneg := Nat.cast_nonneg _
  full := le_refl _
  counted := rfl
  past := fun g mem => absurd mem List.not_mem_nil
  spent := fun t before => by
    rw [grantedSince, opened, List.countP_nil, Nat.cast_zero, zero_add]
    exact le_capacity_add (le_refl _) before
  between := fun t u le => le_capacity_add (Nat.cast_nonneg _) le
  waited := fun seconds mem => absurd mem List.not_mem_nil
  seen := fun shown mem => absurd mem List.not_mem_nil

end Ledger

/-- Whatever the holders of a new bucket do with it, in any order, while the clock does not run backwards: the
bucket holds no less than nothing and no more than it can, when it is looked at too; its count is that of the tokens
granted; each wait that is asked for is positive and no longer than a token takes to come back; and between any two
moments no more tokens are granted than a full bucket and what comes back in the time between them. -/
theorem grants_at_most (rate burst : Nat) (start : Rat) {history : List (Rat × Action)}
    (ordered : IsClock start history) :
    let l := (Ledger.opened (.new rate burst start)).after history
    (0 ≤ l.bucket.available ∧ l.bucket.available ≤ (max burst 1 : Nat)) ∧
      (∀ s ∈ l.shown, 0 ≤ s.available ∧ s.available ≤ (max burst 1 : Nat)) ∧
      l.bucket.acquired = l.grants.length ∧
      (∀ seconds ∈ l.waits, 0 < seconds ∧ seconds ≤ 1 / (max rate 1 : Nat)) ∧
      ∀ t u, t ≤ u → (l.grantedBetween t u : Rat) ≤ (max burst 1 : Nat) + (max rate 1 : Nat) * (u - t) := by
  intro l
  have positive : 0 < max rate 1 := by omega
  have kept : l.IsKept (max burst 1) (max rate 1) := (Ledger.isKept_opened rate burst start).after positive ordered
  exact ⟨⟨kept.nonneg, kept.full⟩, kept.seen, kept.counted, kept.waited, kept.between⟩

/-- Four tokens a second from a bucket of two: callers take, wait and look in turn. -/
theorem grants_at_most_crowded :
    let history : List (Rat × Action) := [(0, .take), (0, .turn false), (0, .turn false), (1 / 8, .stats),
      (1 / 8, .turn true), (1 / 4, .turn false), (3 / 8, .take), (1 / 2, .refill), (2, .take), (2, .take), (2, .take)]
    let l := (Ledger.opened (.new 4 2 0)).after history
    IsClock 0 history ∧ l.grants = [2, 2, 1 / 4, 0, 0] ∧ l.waits = [1 / 4, 1 / 8, 1 / 4] ∧
      l.bucket.acquired = l.grants.length ∧ l.grantedBetween 0 (1 / 4) = 3 ∧
      ∀ t u, t ≤ u → (l.grantedBetween t u : Rat) ≤ 2 + 4 * (u - t) := by
  intro history l
  have ordered : IsClock 0 history := by decide +kernel
  obtain ⟨-, -, -, -, between⟩ := grants_at_most 4 2 0 ordered
  exact ⟨ordered, by decide +kernel, by decide +kernel, by decide +kernel, by decide +kernel, between⟩

end InboxAudit.Pace
