import Reconcile.Number.Shortest

/-!
# Layouts of decimals

Two ways of writing a double-precision number.  In documents a number keeps a fraction, so
that it is told from an integer, and is written with an exponent when it is very large or
very small.  In messages it is written with digits alone.
-/

namespace Reconcile

/-- The decimal digits of a natural number. -/
def digitsOf (n : Nat) : List Char := Nat.toDigits 10 n

/-- An integer in decimal digits. -/
def intText (n : Int) : List Char :=
  if n < 0 then '-' :: digitsOf n.natAbs else digitsOf n.natAbs

namespace Decimal

/-- The digits with a point after the first `point` of them, filled up with zeros; what stands
before the point and after it. -/
def around (d : Decimal) : List Char × List Char :=
  let digits := digitsOf d.digits
  if 0 ≤ d.exponent then (digits ++ List.replicate d.exponent.toNat '0', [])
  else
    let places := (-d.exponent).toNat
    if places < digits.length then
      (digits.take (digits.length - places), digits.drop (digits.length - places))
    else (['0'], List.replicate (places - digits.length) '0' ++ digits)

/-- The exponent of the first digit. -/
def leadingExponent (d : Decimal) : Int := (digitsOf d.digits).length - 1 + d.exponent

/-- One digit, the others as a fraction, and the exponent of the first, with its sign. -/
def scientific (d : Decimal) : List Char :=
  let leading := d.leadingExponent
  let exponent := 'e' :: (if leading < 0 then '-' else '+') :: digitsOf leading.natAbs
  match digitsOf d.digits with
  | [] => exponent
  | [digit] => digit :: exponent
  | digit :: rest => digit :: '.' :: rest ++ exponent

end Decimal

namespace Double

/-- A number in a document: with a fraction when its first digit stands at the exponents from
`-5` to `15`, with an exponent otherwise. -/
def documentText (x : Double) : List Char :=
  let sign := if x.negative then ['-'] else []
  if x.mantissa = 0 then sign ++ ['0', '.', '0']
  else
    let d := x.shortest
    if -5 ≤ d.leadingExponent ∧ d.leadingExponent ≤ 15 then
      let (whole, fraction) := d.around
      sign ++ whole ++ '.' :: (if fraction.isEmpty then ['0'] else fraction)
    else sign ++ d.scientific

end Double

namespace Extended

/-- A number in a message: its digits, without an exponent and without an empty fraction. -/
def messageText : Extended → String
  | .nan => "NaN"
  | .infinite negative => if negative then "-inf" else "inf"
  | .finite x =>
    let sign := if x.negative then ['-'] else []
    if x.mantissa = 0 then String.ofList (sign ++ ['0'])
    else
      let (whole, fraction) := x.shortest.around
      String.ofList (sign ++ whole ++ if fraction.isEmpty then [] else '.' :: fraction)

end Extended

end Reconcile
