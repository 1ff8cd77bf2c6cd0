import Reconcile.Number.Double

/-!
# Scaled reading of decimals

Documents hold decimals as a significand of 64 bits and a power of ten.  Digits that do not
fit into the significand are dropped.  The significand is rounded to a double first and then
multiplied or divided by powers of ten, each step rounded in turn.
-/

namespace Reconcile

/-- The greatest significand. -/
def significandLimit : Nat := Nat.pow 2 64 - 1

/-- Take digits into a significand as long as it fits; the significand and the digits left over. -/
def takeSignificand (significand : Nat) : List Nat → Nat × List Nat
  | [] => (significand, [])
  | d :: rest =>
    if 10 * significand + d ≤ significandLimit then takeSignificand (10 * significand + d) rest
    else (significand, d :: rest)

namespace Double

/-- The product of two numbers, rounded. -/
def mul (x y : Double) : Extended :=
  .ofRatio (x.negative != y.negative) (x.ratio.1 * y.ratio.1) (x.ratio.2 * y.ratio.2)

/-- The quotient of a number by one other than zero, rounded. -/
def div (x y : Double) : Extended :=
  .ofRatio (x.negative != y.negative) (x.ratio.1 * y.ratio.2) (x.ratio.2 * y.ratio.1)

/-- Multiply by `10 ^ exponent` in steps of at most `10 ^ 308`; nothing when the result is too large. -/
def scale? : Nat → Double → Int → Option Double
  | 0, x, _ => some x
  | steps + 1, x, exponent =>
    let power (n : Nat) : Double :=
      match Extended.ofDecimal false 1 n with
      | .finite p => p
      | _ => .zero false
    if exponent.natAbs ≤ 308 then
      match if 0 ≤ exponent then x.mul (power exponent.natAbs) else x.div (power exponent.natAbs) with
      | .finite y => some y
      | _ => none
    else if x.mantissa = 0 then some x
    else if 0 ≤ exponent then none
    else
      match x.div (power 308) with
      | .finite y => scale? steps y (exponent + 308)
      | _ => none

/-- The number read from the digits before and after a point and an exponent; nothing when it is
too large. -/
def ofParts? (negative : Bool) (whole fraction : List Nat) (exponent : Int) : Option Double :=
  let (significand, dropped) := takeSignificand 0 whole
  let (significand, ignored) := takeSignificand significand fraction
  let taken := fraction.length - ignored.length
  match Extended.ofInt significand with
  | .finite x => (scale? 4 x (dropped.length - taken + exponent)).map fun y => ⟨negative, y.mantissa, y.exponent⟩
  | _ => none

end Double

end Reconcile
