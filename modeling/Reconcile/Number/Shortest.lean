import Reconcile.Number.Double

/-!
# Shortest decimals

The decimal with the fewest digits that reads back as a given double-precision number, and
of those the one nearest to it.  The reals that read back as a number lie between the
midpoints to its two neighbours, the midpoints included when the mantissa is even.
-/

namespace Reconcile

/-- A positive decimal `digits · 10 ^ exponent`. -/
structure Decimal where
  digits : Nat
  exponent : Int
  deriving DecidableEq, Repr, Inhabited

namespace Double

/-- A quotient of natural numbers is at least the other. -/
private def atLeast (num den num' den' : Nat) : Bool := num' * den ≤ num * den'

/-- The greatest integer `k` with `10 ^ k ≤ num / den`, for positive `num` and `den`. -/
def floorLog10 (num den : Nat) : Int :=
  let estimate := (floorLog2 num den * 30103).fdiv 100000
  let reached (k : Int) : Bool :=
    if 0 ≤ k then atLeast num den (Nat.pow 10 k.toNat) 1 else atLeast num den 1 (Nat.pow 10 (-k).toNat)
  if reached (estimate + 1) then estimate + 1
  else if reached estimate then estimate
  else estimate - 1

/-- The reals that read back as a positive number, as two quotients and whether they are included. -/
structure Basin where
  lowNum : Nat
  highNum : Nat
  den : Nat
  closed : Bool

/-- The reals that read back as a positive number. -/
def basin (x : Double) : Basin :=
  let (num, den) := (⟨false, 4 * x.mantissa, x.exponent⟩ : Double).ratio
  let (step, _) := (⟨false, 1, x.exponent⟩ : Double).ratio
  let below := if x.mantissa = Nat.pow 2 52 ∧ x.exponent ≠ -1074 then step else 2 * step
  ⟨num - below, num + 2 * step, 4 * den, x.mantissa % 2 == 0⟩

/-- Whether a quotient lies in a basin. -/
def Basin.contains (b : Basin) (num den : Nat) : Bool :=
  if b.closed then atLeast num den b.lowNum b.den && atLeast b.highNum b.den num den
  else !atLeast b.lowNum b.den num den && !atLeast num den b.highNum b.den

/-- The decimal with `n` digits, or one digit more than can be dropped, that is nearest to a
positive number among the two around it, if one of them reads back as the number. -/
def decimalWith? (x : Double) (n : Nat) : Option Decimal :=
  let (num, den) := x.ratio
  let exponent := floorLog10 num den - (n : Int) + 1
  let (up, down) :=
    if 0 ≤ exponent then (1, Nat.pow 10 exponent.toNat) else (Nat.pow 10 (-exponent).toNat, 1)
  let low := num * up / (den * down)
  let high := low + 1
  let hit (d : Nat) : Bool := x.basin.contains (d * down) up
  -- Twice the distance to `low` compared with one step tells which is nearer.
  let twice := 2 * (num * up - low * (den * down))
  let lowNearer := twice < den * down || (twice == den * down && low % 2 == 0)
  match hit low, hit high with
  | true, true => some ⟨if lowNearer then low else high, exponent⟩
  | true, false => some ⟨low, exponent⟩
  | false, true => some ⟨high, exponent⟩
  | false, false => none

/-- Move the zeros at the end of the digits into the exponent. -/
def dropZeros : Nat → Decimal → Decimal
  | 0, d => d
  | fuel + 1, d =>
    if d.digits ≠ 0 ∧ d.digits % 10 = 0 then dropZeros fuel ⟨d.digits / 10, d.exponent + 1⟩ else d

/-- The shortest decimal that reads back as a number other than zero. -/
def shortest (x : Double) : Decimal :=
  dropZeros 20 (((List.range 17).findSome? fun n => x.decimalWith? (n + 1)).getD ⟨x.mantissa, 0⟩)

end Double

end Reconcile
