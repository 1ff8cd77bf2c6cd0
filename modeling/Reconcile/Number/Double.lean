/-!
# Double-precision numbers

The numbers `±mantissa · 2 ^ exponent` of the 64-bit binary format, held exactly, so that
reading, comparing and printing them are computations on integers.  A finite number is in
normal form: its mantissa is below `2 ^ 53`, and at least `2 ^ 52` unless the exponent is the
least one, `-1074`.  `Extended` adds the infinities and the result of an undefined operation.
-/

namespace Reconcile

/-- A finite double-precision number. -/
structure Double where
  negative : Bool
  mantissa : Nat
  exponent : Int
  deriving DecidableEq, Repr, Inhabited

namespace Double

/-- Zero of a given sign. -/
def zero (negative : Bool) : Double := ⟨negative, 0, -1074⟩

/-- The magnitude as a quotient of natural numbers. -/
def ratio (x : Double) : Nat × Nat :=
  if 0 ≤ x.exponent then (x.mantissa * Nat.pow 2 x.exponent.toNat, 1)
  else (x.mantissa, Nat.pow 2 (-x.exponent).toNat)

/-- A number that is at most the other in value; the two zeros have the same value. -/
def le (x y : Double) : Bool :=
  let (a, b) := x.ratio
  let (c, d) := y.ratio
  match x.negative, y.negative with
  | false, false => a * d ≤ c * b
  | true, true => c * b ≤ a * d
  | true, false => true
  | false, true => a == 0 && c == 0

/-- Two numbers have the same value; the two zeros do. -/
def same (x y : Double) : Bool :=
  x.mantissa == y.mantissa && (x.mantissa == 0 || x.exponent == y.exponent && x.negative == y.negative)

end Double

/-- The natural number nearest to a quotient, the even one of two that are equally near. -/
def roundHalfEven (num den : Nat) : Nat :=
  let quotient := num / den
  let remainder := num % den
  if 2 * remainder < den then quotient
  else if den < 2 * remainder then quotient + 1
  else quotient + quotient % 2

/-- The greatest integer `k` with `2 ^ k ≤ num / den`, for positive `num` and `den`. -/
def floorLog2 (num den : Nat) : Int :=
  let estimate : Int := (num.log2 : Int) - den.log2
  let reached :=
    if 0 ≤ estimate then den * Nat.pow 2 estimate.toNat ≤ num
    else den ≤ num * Nat.pow 2 (-estimate).toNat
  if reached then estimate else estimate - 1

/-- A double-precision number, an infinity, or no number at all. -/
inductive Extended where
  | finite (x : Double)
  | infinite (negative : Bool)
  | nan
  deriving DecidableEq, Repr, Inhabited

namespace Extended

/-- The double nearest to a quotient, the one with an even mantissa of two that are equally near. -/
def ofRatio (negative : Bool) (num den : Nat) : Extended :=
  if num = 0 then .finite (.zero negative)
  else
    let exponent := max (floorLog2 num den - 52) (-1074)
    let rounded :=
      if 0 ≤ exponent then roundHalfEven num (den * Nat.pow 2 exponent.toNat)
      else roundHalfEven (num * Nat.pow 2 (-exponent).toNat) den
    let (mantissa, exponent) :=
      if rounded = Nat.pow 2 53 then (Nat.pow 2 52, exponent + 1) else (rounded, exponent)
    if 971 < exponent then .infinite negative else .finite ⟨negative, mantissa, exponent⟩

/-- The double nearest to a decimal `±digits · 10 ^ exponent`. -/
def ofDecimal (negative : Bool) (digits : Nat) (exponent : Int) : Extended :=
  let places : Int := (Nat.toDigits 10 digits).length + exponent
  if digits = 0 || places < -400 then .finite (.zero negative)
  else if 400 < places then .infinite negative
  else if 0 ≤ exponent then ofRatio negative (digits * Nat.pow 10 exponent.toNat) 1
  else ofRatio negative digits (Nat.pow 10 (-exponent).toNat)

/-- The double nearest to an integer. -/
def ofInt (n : Int) : Extended := ofRatio (n < 0) n.natAbs 1

/-- Strictly less in value; false when either side is no number. -/
def lt : Extended → Extended → Bool
  | .nan, _ | _, .nan => false
  | .infinite negative, .infinite negative' => negative && !negative'
  | .infinite negative, .finite _ => negative
  | .finite _, .infinite negative => !negative
  | .finite x, .finite y => !y.le x

/-- Equal in value; false when either side is no number. -/
def same : Extended → Extended → Bool
  | .finite x, .finite y => x.same y
  | .infinite negative, .infinite negative' => negative == negative'
  | _, _ => false

end Extended

end Reconcile
