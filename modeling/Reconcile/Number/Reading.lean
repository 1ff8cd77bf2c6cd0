import Reconcile.Number.Double
import Reconcile.Text.Scan

/-!
# Reading numbers

Readers of integers and real numbers from whole texts, without surrounding white space.  A
real number may lack the digits on one side of its point, may carry an exponent, and may be
an infinity or no number, written in any case.
-/

namespace Reconcile

/-- Whether a character is a decimal digit. -/
def isDigit (c : Char) : Bool := '0' ≤ c && c ≤ '9'

/-- The value of a digit in bases up to sixteen. -/
def digitValue? (c : Char) : Option Nat :=
  if isDigit c then some (c.toNat - '0'.toNat)
  else if 'a' ≤ c && c ≤ 'f' then some (c.toNat - 'a'.toNat + 10)
  else if 'A' ≤ c && c ≤ 'F' then some (c.toNat - 'A'.toNat + 10)
  else none

/-- The number written by decimal digits. -/
def digitsValue (digits : List Char) : Nat :=
  digits.foldl (fun n c => 10 * n + (c.toNat - '0'.toNat)) 0

/-- The number written in a base by a nonempty text of its digits. -/
def natOfBase? (base : Nat) (text : List Char) : Option Nat :=
  if text.isEmpty then none
  else text.foldlM (fun n c => (digitValue? c).bind fun d => if d < base then some (base * n + d) else none) 0

/-- Split off a sign; whether it is a minus, and the rest. -/
def splitSign : List Char → Bool × List Char
  | '-' :: rest => (true, rest)
  | '+' :: rest => (false, rest)
  | text => (false, text)

/-- The integer of a text in decimal digits with an optional sign. -/
def intOfText? (text : List Char) : Option Int :=
  let (negative, digits) := splitSign text
  (natOfBase? 10 digits).map fun n => if negative then -(n : Int) else n

/-- An exponent: a mark, an optional sign and digits; nothing stands for zero. -/
def exponentOf? : List Char → Option Int
  | [] => some 0
  | mark :: rest => if mark = 'e' || mark = 'E' then intOfText? rest else none

/-- The nearest double to the real number written by a text. -/
def Extended.ofText? (text : List Char) : Option Extended :=
  let (negative, body) := splitSign text
  let word := body.map Text.asciiLower
  if word = "inf".toList || word = "infinity".toList then some (.infinite negative)
  else if word = "nan".toList then some .nan
  else
    let (whole, rest) := body.span isDigit
    let (fraction, rest) :=
      match rest with
      | '.' :: rest => rest.span isDigit
      | rest => ([], rest)
    if whole.isEmpty && fraction.isEmpty then none
    else
      (exponentOf? rest).map fun exponent =>
        .ofDecimal negative (digitsValue (whole ++ fraction)) (exponent - fraction.length)

end Reconcile
