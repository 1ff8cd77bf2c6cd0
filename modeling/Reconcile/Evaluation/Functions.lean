import Reconcile.Digest.Encoding
import Reconcile.Evaluation.Error
import Reconcile.Expression.Basic
import Reconcile.Text.Scan
import Reconcile.Number.Reading

/-!
# Functions of values

What the functions of expressions make of values.  Arguments are never converted silently: a
value of the wrong type is an error that names the function and what it expected.
-/

namespace Reconcile

namespace Json

/-- The name of the type of a value. -/
def typeName : Json → String
  | .null => "null"
  | .bool _ => "boolean"
  | .number _ => "number"
  | .string _ => "string"
  | .list _ => "list"
  | .object _ => "object"

/-- The error for a value of the wrong type. -/
def mismatch {α : Type} (function expected : String) (value : Json) : Except EvaluationError α :=
  .error (.typeMismatch function expected value.typeName)

/-- The text of a value that is a text, a number or a truth value. -/
def scalarText (function : String) : Json → Except EvaluationError String
  | .string s => .ok s
  | .number n => .ok (String.ofList n.written)
  | .bool b => .ok (boolText b)
  | other => other.mismatch function "a string, number or boolean"

/-- The text of a value that must be a text. -/
def expectString (function : String) : Json → Except EvaluationError String
  | .string s => .ok s
  | other => other.mismatch function "a string"

/-- The truth value of a value that must be one. -/
def expectBool (function : String) : Json → Except EvaluationError Bool
  | .bool b => .ok b
  | other => other.mismatch function "a boolean"

/-- The items of a value that must be a list. -/
def expectList (function : String) : Json → Except EvaluationError (List Json)
  | .list items => .ok items
  | other => other.mismatch function "a list"

/-- The texts of a value that must be a list of texts. -/
def expectStrings (function : String) (value : Json) : Except EvaluationError (List String) := do
  let items ← value.expectList function
  items.mapM fun item =>
    match item with
    | .string s => .ok s
    | other => other.mismatch function "a list of strings"

/-- The index of a value that must be an integer of 64 bits or the text of one. -/
def expectIndex (function : String) (value : Json) : Except EvaluationError Int :=
  let index? : Option Int :=
    match value with
    | .number (.int n) => some n
    | .string s => intOfText? (Text.trim s.toList)
    | _ => none
  match index? with
  | some n => if -(Nat.pow 2 63 : Int) ≤ n ∧ n < Nat.pow 2 63 then .ok n else value.mismatch function "an integer index"
  | none => value.mismatch function "an integer index"

end Json

namespace Unary

/-- What makes a call of a function fail before its argument is looked at. -/
def check (function : Unary) : Except EvaluationError Unit :=
  match function with
  | .split "" => .error (.invalidArguments function.name "delimiter must not be empty")
  | _ => .ok ()

/-- The value of a function of one value. -/
def apply (function : Unary) (argument : Json) : Except EvaluationError Json :=
  match function with
  | .join delimiter => do
    let items ← argument.expectList function.name
    let parts ← items.mapM (Json.scalarText function.name)
    return .string (String.intercalate delimiter parts)
  | .split delimiter => do
    let text ← argument.expectString function.name
    return .strings (Text.split delimiter text)
  | .base64 => do
    let text ← argument.expectString function.name
    return .string (String.ofList (Reconcile.base64 (utf8 text)))
  | .not => do
    let b ← argument.expectBool function.name
    return .bool (!b)
  | .length => do
    let items ← argument.expectList function.name
    return .nat items.length
  | .toJsonString => .ok (.string argument.compact)

end Unary

namespace Binary

/-- The value of a function of two values. -/
def apply (function : Binary) (first second : Json) : Except EvaluationError Json :=
  match function with
  | .select => do
    let index ← first.expectIndex function.name
    let items ← second.expectList function.name
    match if index < 0 then none else items[index.toNat]? with
    | some item => return item
    | none => .error (.indexOutOfRange function.name index items.length)
  | .equals => .ok (.bool (first.same second))
  | .contains => do
    let members ← first.expectStrings function.name
    let value ← second.expectString function.name
    return .bool (members.contains value)
  | .eachMemberEquals => do
    let members ← first.expectStrings function.name
    let value ← second.expectString function.name
    return .bool (members.all (· == value))
  | .eachMemberIn => do
    let members ← first.expectStrings function.name
    let allowed ← second.expectStrings function.name
    return .bool (members.all allowed.contains)

end Binary

namespace Junction

/-- What makes a connective fail before its operands are looked at. -/
def check (connective : Junction) (count : Nat) : Except EvaluationError Unit :=
  if 2 ≤ count ∧ count ≤ 10 then .ok ()
  else
    .error (.invalidArguments connective.name
      ("expected between 2 and 10 conditions, got " ++ toString count))

/-- The truth value of a connective. -/
def apply (connective : Junction) (operands : List Bool) : Bool :=
  match connective with
  | .and => operands.all id
  | .or => operands.any id

end Junction

/-- The availability zones of a region. -/
def zonesOf (region : String) : Json := .strings (["a", "b", "c"].map (region ++ ·))

end Reconcile
