/-!
# Edit distance

The least number of insertions, deletions and replacements of single characters that turn
one text into another.
-/

namespace Reconcile.Text

/-- The next row of distances: `diagonal` and `above` come from the row before, `left` from this one. -/
def distanceRow (c : Char) : List Char → (diagonal left : Nat) → List Nat → List Nat
  | d :: target, diagonal, left, above :: row =>
    let here := min (min (left + 1) (above + 1)) (diagonal + if c = d then 0 else 1)
    here :: distanceRow c target above here row
  | _, _, _, _ => []

/-- The distances of a text read so far to every beginning of `target`. -/
def distanceRows (target : List Char) : Nat → List Nat → List Char → List Nat
  | _, row, [] => row
  | first, row, c :: source =>
    distanceRows target (first + 1)
      ((first + 1) :: distanceRow c target first (first + 1) row.tail) source

/-- The edit distance of two texts. -/
def distance (source target : String) : Nat :=
  (distanceRows target.toList 0 (List.range (target.toList.length + 1)) source.toList).getLast?.getD 0

end Reconcile.Text
