import Mathlib
import Reconcile.Number.Double

/-!
# The order of numbers

The comparison of double-precision numbers, which is a computation on integers, is that of the rational numbers they
stand for, with one infinity above and one below all of these.  What is not a number stands for nothing: it is
neither less than anything, nor greater, nor equal.
-/

namespace Reconcile

namespace Double

/-- The magnitude of a finite number. -/
def magnitude (x : Double) : ℚ := x.mantissa * 2 ^ x.exponent

/-- The rational number that a finite number stands for. -/
def value (x : Double) : ℚ := if x.negative then -x.magnitude else x.magnitude

theorem magnitude_nonneg (x : Double) :
  0 ≤ x.magnitude
  := by
  unfold magnitude
  positivity

theorem ratio_pos (x : Double) :
  0 < x.ratio.2
  := by
  unfold ratio
  split
  · exact Nat.one_pos
  · exact Nat.two_pow_pos _

theorem magnitude_eq (x : Double) :
  x.magnitude = x.ratio.1 / x.ratio.2
  := by
  unfold magnitude ratio
  split
  · next natural =>
    obtain ⟨n, hn⟩ := Int.eq_ofNat_of_zero_le natural
    rw [hn]
    simp
  · next negative =>
    obtain ⟨n, hn⟩ : ∃ n : ℕ, x.exponent = -n := ⟨(-x.exponent).toNat, by omega⟩
    rw [hn]
    simp [div_eq_mul_inv]

/-- Magnitudes are compared as quotients. -/
theorem magnitude_le_iff (x y : Double) :
  x.magnitude ≤ y.magnitude ↔ x.ratio.1 * y.ratio.2 ≤ y.ratio.1 * x.ratio.2
  := by
  have hx : (0 : ℚ) < x.ratio.2 := by exact_mod_cast x.ratio_pos
  have hy : (0 : ℚ) < y.ratio.2 := by exact_mod_cast y.ratio_pos
  rw [magnitude_eq, magnitude_eq, div_le_div_iff₀ hx hy]
  exact_mod_cast Iff.rfl

theorem magnitude_eq_zero_iff (x : Double) :
  x.magnitude = 0 ↔ x.ratio.1 = 0
  := by
  rw [magnitude_eq, div_eq_zero_iff]
  simp [x.ratio_pos.ne']

/-- Finite numbers are compared by what they stand for. -/
theorem le_iff (x y : Double) :
  x.le y ↔ x.value ≤ y.value
  := by
  have hx := x.magnitude_nonneg
  have hy := y.magnitude_nonneg
  unfold le value
  cases x.negative with
  | false =>
    cases y.negative with
    | false => simpa using (magnitude_le_iff x y).symm
    | true =>
      -- Only zero is at most a number with a minus, and only at most zero.
      have both : x.magnitude ≤ -y.magnitude ↔ x.magnitude = 0 ∧ y.magnitude = 0 := by
        constructor
        · intro h
          constructor
          · linarith
          · linarith
        · rintro ⟨hx, hy⟩
          linarith
      simp [both, magnitude_eq_zero_iff]
  | true =>
    cases y.negative with
    | false =>
      have below : -x.magnitude ≤ y.magnitude := by linarith
      simp [below]
    | true => simpa using (magnitude_le_iff y x).symm

end Double

namespace Extended

/-- What a number stands for, the infinities included; nothing when it is no number. -/
def value? : Extended → Option (WithBot (WithTop ℚ))
  | .finite x => some (x.value : WithTop ℚ)
  | .infinite true => some ⊥
  | .infinite false => some (⊤ : WithTop ℚ)
  | .nan => none

/-- At most in value; not so when either side is no number. -/
def AtMost (x y : Extended) : Prop := ∃ a ∈ x.value?, ∃ b ∈ y.value?, a ≤ b

theorem value?_eq_none {x : Extended} :
  x.value? = none ↔ x = .nan
  := by
  cases x with
  | finite x => simp [value?]
  | infinite negative => cases negative <;> simp [value?]
  | nan => simp [value?]

/-- Numbers are compared by what they stand for. -/
theorem lt_iff (x y : Extended) :
  x.lt y ↔ ∃ a ∈ x.value?, ∃ b ∈ y.value?, a < b
  := by
  cases x with
  | nan => simp [lt, value?]
  | finite x =>
    cases y with
    | nan => simp [lt, value?]
    | finite y =>
      have decided : (!y.le x) = true ↔ x.value < y.value := by
        rw [Bool.not_eq_true', ← Bool.not_eq_true, Double.le_iff, not_le]
      simp [lt, value?, decided]
    | infinite negative =>
      have below : ((x.value : WithTop ℚ) : WithBot (WithTop ℚ)) < (⊤ : WithTop ℚ) :=
        WithBot.coe_lt_coe.mpr (WithTop.coe_lt_top _)
      cases negative with
      | true => simp [lt, value?]
      | false => simpa [lt, value?] using below
  | infinite negative =>
    cases y with
    | nan => simp [lt, value?]
    | finite y => cases negative <;> simp [lt, value?]
    | infinite negative' => cases negative <;> cases negative' <;> simp [lt, value?]

/-- Of two numbers, one is at most the other unless it is greater. -/
theorem atMost_iff (x y : Extended) :
  x.AtMost y ↔ x ≠ .nan ∧ y ≠ .nan ∧ ¬ y.lt x
  := by
  rw [AtMost, lt_iff, ne_eq, ne_eq, ← value?_eq_none, ← value?_eq_none]
  cases x.value? with
  | none => simp
  | some a =>
    cases y.value? with
    | none => simp
    | some b => simp

end Extended

end Reconcile
