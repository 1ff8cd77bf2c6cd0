import Mathlib
import Reconcile.Backoff

/-!
# Delays of a schedule

The delays of a schedule double until they reach the cap, and then stay there.  Durations have a greatest value, at
which the doubling stops; but no cap that can be configured exceeds it, so that this never shows.
-/

namespace Reconcile

namespace Backoff

variable {backoff : Backoff}

/-! ### Delays one by one -/

theorem length_take (count : Nat) (backoff : Backoff) :
  (backoff.take count).length = count
  := by
  induction count generalizing backoff with
  | zero => rfl
  | succ count ih => rw [take, List.length_cons, ih]

theorem getElem?_take (count : Nat) (backoff : Backoff) (n : Nat) :
  (backoff.take count)[n]? = if n < count then some (backoff.drop n).step.1 else none
  := by
  induction count generalizing backoff n with
  | zero => rfl
  | succ count ih =>
    cases n with
    | zero => rfl
    | succ n =>
      rw [take, List.getElem?_cons_succ, ih, drop]
      simp

/-- The delays double until they reach the cap, if that is a duration. -/
theorem step_drop (short : backoff.cap ≤ limit) (n : Nat) :
  (backoff.drop n).step.1 = min (backoff.next * 2 ^ n) backoff.cap
  := by
  induction n generalizing backoff with
  | zero => rw [Nat.pow_zero, Nat.mul_one, drop, step]
  | succ n ih =>
    have next : (backoff.drop (n + 1)).step.1 = min (min (2 * backoff.next) limit * 2 ^ n) backoff.cap := ih short
    rw [next]
    obtain below | above := Nat.le_total (2 * backoff.next) limit
    · rw [Nat.min_eq_left below, Nat.pow_succ', Nat.mul_comm 2, Nat.mul_assoc]
    · -- What is doubled no longer is over the cap already.
      have positive : 0 < 2 ^ n := Nat.two_pow_pos n
      have capped : backoff.cap ≤ limit * 2 ^ n := short.trans (Nat.le_mul_of_pos_right _ positive)
      have capped' : backoff.cap ≤ backoff.next * 2 ^ (n + 1) := by
        apply capped.trans
        rw [Nat.pow_succ', ← Nat.mul_assoc, Nat.mul_comm backoff.next]
        exact Nat.mul_le_mul_right _ above
      rw [Nat.min_eq_right above, Nat.min_eq_right capped, Nat.min_eq_right capped']

/-- A cap in milliseconds that fits into 64 bits is a duration. -/
theorem cap_start_le {cap : Nat} (base : Nat) (short : cap < 2 ^ 64) :
  (start base cap).cap ≤ limit
  := by
  unfold start limit
  rw [Nat.pow_eq]
  dsimp only
  omega

/-- The delays of a schedule whose cap fits into 64 bits. -/
theorem step_drop_start {cap : Nat} (base : Nat) (short : cap < 2 ^ 64) (n : Nat) :
  ((start base cap).drop n).step.1 = min (base * 2 ^ n) cap * 1000000
  := by
  rw [step_drop (cap_start_le base short), start, Nat.mul_right_comm, Nat.mul_min_mul_right]

/-! ### Schedules as they are configured -/

/-- The delays of a schedule are the base, doubled again and again as far as the cap allows; all are in
milliseconds, of a million nanoseconds each. -/
structure Doubles (backoff : Backoff) (base cap : Nat) : Prop where
  delay : ∀ n, (backoff.drop n).step.1 = min (base * 2 ^ n) cap * 1000000
  /-- The first delays are these, in order, -/
  take_eq : ∀ count, backoff.take count = (List.range count).map fun n => min (base * 2 ^ n) cap * 1000000
  /-- and none is less than one before it. -/
  monotone : Monotone fun n => (backoff.drop n).step.1

theorem doubles_start {cap : Nat} (base : Nat) (short : cap < 2 ^ 64) :
  (start base cap).Doubles base cap
  := by
  constructor
  · exact step_drop_start base short
  · intro count
    ext n : 1
    rw [getElem?_take, step_drop_start base short]
    split
    · next within => simp [within]
    · next beyond => simp [beyond]
  · intro n later le
    have grown : 2 ^ n ≤ 2 ^ later := Nat.pow_le_pow_right Nat.two_pos le
    dsimp only
    rw [step_drop_start base short, step_drop_start base short]
    gcongr

end Backoff

namespace Retry

/-- The delays between the attempts of a call, in milliseconds. -/
def pauses (retry : Retry) : List Nat := (retry.backoff.take retry.retries).map (· / 1000000)

theorem delay?_eq (retry : Retry) (earlier : Nat) :
  retry.delay? earlier = retry.pauses[earlier]?
  := by
  rw [delay?, pauses, List.getElem?_map, Backoff.getElem?_take]
  split
  · rfl
  · rfl

@[simp]
theorem length_pauses (retry : Retry) :
  retry.pauses.length = max retry.maxAttempts 1 - 1
  := by
  rw [pauses, List.length_map, Backoff.length_take, retries]

/-- The first pause is the base, and every next one is twice the one before, up to the cap. -/
theorem getElem?_pauses {retry : Retry} (short : retry.maxDelay < 2 ^ 64) (n : Nat) :
  retry.pauses[n]?
    = if n < max retry.maxAttempts 1 - 1 then some (min (retry.baseDelay * 2 ^ n) retry.maxDelay) else none
  := by
  rw [← delay?_eq, delay?, backoff, Backoff.step_drop_start _ short, retries, Nat.mul_div_cancel _ (by decide)]

example : ({ maxAttempts := 6, baseDelay := 100, maxDelay := 500 } : Retry).pauses = [100, 200, 400, 500, 500] := by
  decide

/-- The delays between attempts double from the base up to the cap, never to be seen to stop before, and there is
one less of them than there are attempts. -/
theorem doubles_backoff (retry : Retry) (short : retry.maxDelay < 2 ^ 64) :
  retry.backoff.Doubles retry.baseDelay retry.maxDelay
    ∧ (retry.backoff.take retry.retries).length = max retry.maxAttempts 1 - 1
  := by
  constructor
  · exact Backoff.doubles_start retry.baseDelay short
  · rw [Backoff.length_take, retries]

/-- A schedule whose doubling stops at the greatest duration long before the last delay. -/
def longest : Retry := { maxAttempts := 20, baseDelay := 2 ^ 63, maxDelay := 2 ^ 64 - 1 }

theorem doubles_backoff_longest :
  longest.maxDelay < 2 ^ 64 ∧ (longest.backoff.drop 19).next = Backoff.limit
    ∧ longest.backoff.Doubles (2 ^ 63) (2 ^ 64 - 1) ∧ (longest.backoff.take longest.retries).length = 19
  := by
  have short : longest.maxDelay < 2 ^ 64 := by decide
  obtain ⟨doubles, length⟩ := doubles_backoff longest short
  exact ⟨short, by decide, doubles, length⟩

end Retry

end Reconcile
