import Reconcile.Expression.Basic
import Reconcile.Text.Scan

/-!
# Reading expressions

A value is read as an expression.  An object with a single field that names a function is a
call of that function; every other object is a plain object.  `Condition` names a function
only in front of a text, because resources and outputs have a field of that name.
-/

namespace Reconcile

/-- What is wrong with the argument of a function. -/
structure ExpressionError where
  function : String
  reason : String
  deriving DecidableEq, Repr

/-- The error in words. -/
def ExpressionError.message (error : ExpressionError) : String :=
  error.function ++ ": " ++ error.reason

namespace Expression

/-- Whether a field names a function. -/
def isCall (key : String) (argument : Json) : Bool :=
  key == "Ref" || Text.startsWith key "Fn::"
    || key == "Condition" && (match argument with | .string _ => true | _ => false)

/-- How the argument of a function is read. -/
inductive Shape where
  | name
  | conditionName
  | typeName
  | member
  | text
  | region
  | mapping
  | choice
  /-- One value, as it stands. -/
  | one (function : Unary)
  /-- One value in a list. -/
  | listed (function : Unary)
  /-- A delimiter and a value. -/
  | delimited (function : String → Unary)
  | two (function : Binary)
  | many (connective : Junction)

/-- How the argument of the function with a name is read. -/
def shape? : String → Option Shape
  | "Ref" => some .name
  | "Condition" => some .conditionName
  | "Fn::RefAll" => some .typeName
  | "Fn::GetAtt" => some .member
  | "Fn::Sub" => some .text
  | "Fn::GetAZs" => some .region
  | "Fn::FindInMap" => some .mapping
  | "Fn::If" => some .choice
  | "Fn::Base64" => some (.one .base64)
  | "Fn::Length" => some (.one .length)
  | "Fn::ToJsonString" => some (.one .toJsonString)
  | "Fn::Not" => some (.listed .not)
  | "Fn::Join" => some (.delimited .join)
  | "Fn::Split" => some (.delimited .split)
  | "Fn::Select" => some (.two .select)
  | "Fn::Equals" => some (.two .equals)
  | "Fn::Contains" => some (.two .contains)
  | "Fn::EachMemberEquals" => some (.two .eachMemberEquals)
  | "Fn::EachMemberIn" => some (.two .eachMemberIn)
  | "Fn::And" => some (.many .and)
  | "Fn::Or" => some (.many .or)
  | _ => none

/-- The text of an argument that must be a text. -/
def textArgument (function : String) : Json → Except ExpressionError String
  | .string s => .ok s
  | other => .error ⟨function, "expected a string, got " ++ other.compact⟩

/-- The error for an argument that is not a list of the right length. -/
def wrongArguments {α : Type} (function : String) (count : Nat) : Json → Except ExpressionError α
  | .list items =>
    .error ⟨function, "expected exactly " ++ toString count ++ " arguments, got " ++ toString items.length⟩
  | other =>
    .error ⟨function, "expected a list of " ++ toString count ++ " arguments, got " ++ other.compact⟩

mutual

/-- The expression that a value writes. -/
def parse : Json → Except ExpressionError Expression
  | .null => .ok .null
  | .bool b => .ok (.bool b)
  | .number n => .ok (.number n)
  | .string s => .ok (.string s)
  | .list items => (parseItems items).map .list
  | .object [(key, argument)] =>
    if isCall key argument then parseCall key argument
    else do
      let value ← parse argument
      return .object [(key, value)]
  | .object fields => (parseFields fields).map .object

/-- The expressions that some values write. -/
def parseItems : List Json → Except ExpressionError (List Expression)
  | [] => .ok []
  | item :: rest => do
    let value ← parse item
    let values ← parseItems rest
    return value :: values

/-- The fields that some fields write. -/
def parseFields : List (String × Json) → Except ExpressionError (List (String × Expression))
  | [] => .ok []
  | (key, item) :: rest => do
    let value ← parse item
    let values ← parseFields rest
    return (key, value) :: values

/-- The call that a function name and its argument write. -/
def parseCall (function : String) (argument : Json) : Except ExpressionError Expression :=
  match shape? function with
  | none => .error ⟨function, "unsupported intrinsic function"⟩
  | some .name => (textArgument function argument).map .ref
  | some .conditionName => (textArgument function argument).map .condition
  | some .typeName => (textArgument function argument).map .refAll
  | some .region => (parse argument).map .getAZs
  | some (.one f) => (parse argument).map (.unary f)
  | some .member =>
    match argument with
    | .string dotted =>
      match Text.splitOnce '.' dotted with
      | some (logicalId, attr) => .ok (.getAtt logicalId attr)
      | none => .error ⟨function, "expected 'LogicalId.Attribute'"⟩
    | .list [logicalId, attr] => do
      let logicalId ← textArgument function logicalId
      let attr ← textArgument function attr
      return .getAtt logicalId attr
    | argument => wrongArguments function 2 argument
  | some .text =>
    match argument with
    | .string text => .ok (.sub text [])
    | .list [text, .object entries] => do
      let bound ← parseFields entries
      let text ← textArgument function text
      return .sub text bound
    | .list [_, other] => .error ⟨function, "variables must be a map, got " ++ other.compact⟩
    | argument => wrongArguments function 2 argument
  | some .mapping =>
    match argument with
    | .list [table, top, second] => do
      let table ← parse table
      let top ← parse top
      let second ← parse second
      return .findInMap table top second
    | argument => wrongArguments function 3 argument
  | some .choice =>
    match argument with
    | .list [.string name, holds, otherwise] => do
      let holds ← parse holds
      let otherwise ← parse otherwise
      return .ifNamed name holds otherwise
    | .list [test, holds, otherwise] => do
      let test ← parse test
      let holds ← parse holds
      let otherwise ← parse otherwise
      return .ifValue test holds otherwise
    | argument => wrongArguments function 3 argument
  | some (.listed f) =>
    match argument with
    | .list [operand] => (parse operand).map (.unary f)
    | argument => wrongArguments function 1 argument
  | some (.delimited f) =>
    match argument with
    | .list [delimiter, values] => do
      let delimiter ← textArgument function delimiter
      let values ← parse values
      return .unary (f delimiter) values
    | argument => wrongArguments function 2 argument
  | some (.two f) =>
    match argument with
    | .list [first, second] => do
      let first ← parse first
      let second ← parse second
      return .binary f first second
    | argument => wrongArguments function 2 argument
  | some (.many f) =>
    match argument with
    | .list items => (parseItems items).map (.junction f)
    | other => .error ⟨function, "expected a list, got " ++ other.compact⟩

end

end Expression

end Reconcile
