/-!
# Token buckets

A token bucket paces calls: a call takes one token, tokens come back at a steady rate, and no more
are kept than the bucket holds. Times are seconds, levels and times are exact rational numbers.
The bucket knows when it was filled last, so `refill` may come at any moment and any number of
times.
-/

namespace InboxAudit.Pace
set_option autoImplicit false

/-- A bucket: its tokens, how many it holds, how many come back in a second, when it was filled
last, and how often it gave a token or made a caller sleep. -/
structure TokenBucket where
  available : Rat
  capacity : Nat
  rate : Nat
  refilledAt : Rat
  acquired : Nat
  waits : Nat

namespace TokenBucket

/-- A full bucket; it holds at least one token, and at least one comes back in a second. -/
def new (rate burst : Nat) (now : Rat) : TokenBucket :=
  ⟨(max burst 1 : Nat), max burst 1, max rate 1, now, 0, 0⟩

/-- The bucket with the tokens that came back since it was filled last. -/
def refill (now : Rat) (b : TokenBucket) : TokenBucket :=
  let level := b.available + (now - b.refilledAt) * b.rate
  { b with available := if level ≤ b.capacity then level else b.capacity, refilledAt := now }

/-- How an attempt to take a token ends. -/
inductive Attempt where
  | granted
  /-- There will be a token in so many seconds. -/
  | short (seconds : Rat)
  deriving Repr, DecidableEq

/-- An attempt to take a token. -/
def take (now : Rat) (b : TokenBucket) : Attempt × TokenBucket :=
  let b := b.refill now
  if 1 ≤ b.available then
    (.granted, { b with available := b.available - 1, acquired := b.acquired + 1 })
  else (.short ((1 - b.available) / b.rate), b)

/-- What a look at a bucket shows. -/
structure Stats where
  available : Rat
  capacity : Nat
  acquired : Nat
  waits : Nat
  deriving Repr, DecidableEq

/-- A look at the bucket, which fills it first. -/
def stats (now : Rat) (b : TokenBucket) : Stats × TokenBucket :=
  let b := b.refill now
  (⟨b.available, b.capacity, b.acquired, b.waits⟩, b)

/-- The whole tokens in the bucket. -/
def wholeTokens (b : TokenBucket) : Nat := b.available.floor.toNat

/-- One turn of a caller that waits for a token. -/
inductive Turn where
  | granted
  | cancelled
  /-- To try again in so many seconds. -/
  | sleep (seconds : Rat)
  deriving Repr, DecidableEq

/-- A turn begins with a look whether the caller was cancelled; only then is a token taken. -/
def turn (now : Rat) (cancelled : Bool) (b : TokenBucket) : Turn × TokenBucket :=
  if cancelled then (.cancelled, b)
  else
    match b.take now with
    | (.granted, b) => (.granted, b)
    | (.short seconds, b) => (.sleep seconds, { b with waits := b.waits + 1 })

/-- A caller that has the bucket to itself and is cancelled at once or never: how the wait ends and
at what time. -/
def wait (now : Rat) (cancelled : Bool) (b : TokenBucket) : Bool × Rat × TokenBucket :=
  match b.turn now cancelled with
  | (.granted, b) => (true, now, b)
  | (.cancelled, b) => (false, now, b)
  | (.sleep seconds, b) =>
    match b.turn (now + seconds) false with
    | (.granted, b) => (true, now + seconds, b)
    | (_, b) => (false, now + seconds, b)

end TokenBucket

end InboxAudit.Pace
