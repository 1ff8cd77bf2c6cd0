import Reconcile.Number.Double
import Reconcile.Table

/-!
# Values

The dynamic values of templates and states: the data of JSON documents.  An object keeps its
fields in order.  Integers and real numbers are different numbers.  `Json.same` is equality
of values: the order of the fields of an object does not matter, and the two zeros are the
same real number.
-/

namespace Reconcile

/-- A number of a document: an integer or a real number. -/
inductive Number where
  | int (n : Int)
  | real (x : Double)
  deriving DecidableEq, Repr, Inhabited

/-- Numbers of one kind with one value. -/
def Number.same : Number → Number → Bool
  | .int m, .int n => m == n
  | .real x, .real y => x.same y
  | _, _ => false

/-- A value of a document. -/
inductive Json where
  | null
  | bool (b : Bool)
  | number (n : Number)
  | string (s : String)
  | list (items : List Json)
  | object (fields : List (String × Json))
  deriving Repr, Inhabited

namespace Json

/-- An integer as a value. -/
def int (n : Int) : Json := .number (.int n)

/-- A natural number as a value. -/
def nat (n : Nat) : Json := .number (.int n)

/-- A list of texts as a value. -/
def strings (texts : List String) : Json := .list (texts.map .string)

/-- A table of values as an object. -/
def ofTable (table : Table Json) : Json := .object table.entries

/-- The field of an object with a given name. -/
def field? (name : String) : Json → Option Json
  | .object fields => lookup name fields
  | _ => none

/-- The object with these fields; a repeated name keeps its first place and its last value. -/
def ofFields (fields : List (String × Json)) : Json := .object (enterAll fields)

mutual

/-- Equality of values, whatever the order of the fields of objects. -/
def same : Json → Json → Bool
  | .null, .null => true
  | .bool a, .bool b => a == b
  | .number m, .number n => m.same n
  | .string s, .string t => s == t
  | .list xs, .list ys => sameItems xs ys
  | .object fields, .object fields' => fields.length == fields'.length && sameFields fields fields'
  | _, _ => false

/-- Equality of lists of values, item by item. -/
def sameItems : List Json → List Json → Bool
  | [], [] => true
  | x :: xs, y :: ys => same x y && sameItems xs ys
  | _, _ => false

/-- Every field of the first list has the same value in the second. -/
def sameFields : List (String × Json) → List (String × Json) → Bool
  | [], _ => true
  | (key, value) :: rest, fields =>
    (match lookup key fields with
      | some value' => same value value'
      | none => false) && sameFields rest fields

end

end Json

end Reconcile
