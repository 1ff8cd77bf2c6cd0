import Reconcile.Config.Basic

/-!
# Backoff

The delays between the attempts of a call.  The first is the base, every next one is twice
the one before, and none exceeds a maximum.  Durations are in milliseconds and have a greatest
value, at which doubling stops.
-/

namespace Reconcile

/-- The greatest duration in nanoseconds: all whole seconds of 64 bits and a fraction. -/
def Backoff.limit : Nat := (Nat.pow 2 64 - 1) * 1000000000 + 999999999

/-- A schedule of delays, in nanoseconds: the next delay before it is capped, and the cap. -/
structure Backoff where
  next : Nat
  cap : Nat
  deriving DecidableEq, Repr, Inhabited

namespace Backoff

/-- The schedule that begins with a base and is capped, both in milliseconds. -/
def start (base cap : Nat) : Backoff := ⟨base * 1000000, cap * 1000000⟩

/-- The next delay and the schedule after it. -/
def step (b : Backoff) : Nat × Backoff := (min b.next b.cap, ⟨min (2 * b.next) limit, b.cap⟩)

/-- The first delays of a schedule. -/
def take : Nat → Backoff → List Nat
  | 0, _ => []
  | count + 1, b => b.step.1 :: take count b.step.2

/-- The schedule after some delays. -/
def drop : Nat → Backoff → Backoff
  | 0, b => b
  | count + 1, b => drop count b.step.2

end Backoff

namespace Retry

/-- The number of delays: one less than the attempts, and none when there are no attempts. -/
def retries (retry : Retry) : Nat := max retry.maxAttempts 1 - 1

/-- The schedule of delays. -/
def backoff (retry : Retry) : Backoff := .start retry.baseDelay retry.maxDelay

/-- The delay in milliseconds after a number of earlier delays, if there is one more. -/
def delay? (retry : Retry) (earlier : Nat) : Option Nat :=
  if earlier < retry.retries then some ((retry.backoff.drop earlier).step.1 / 1000000) else none

end Retry

end Reconcile
