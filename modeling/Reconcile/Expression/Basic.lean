import Reconcile.Json.Printer

/-!
# Expressions

An expression is a value with deferred parts.  The deferred parts are calls of functions: a
reference to a name, an attribute of a resource, a text with placeholders, a choice between
two branches, and functions of values.  `Expression.toJson` is the written form of an
expression, in which a call is an object with one field, the name of the function.
-/

namespace Reconcile

/-- A function of one value. -/
inductive Unary where
  | join (delimiter : String)
  | split (delimiter : String)
  | base64
  | not
  | length
  | toJsonString
  deriving DecidableEq, Repr, Inhabited

/-- A function of two values. -/
inductive Binary where
  | select
  | equals
  | contains
  | eachMemberEquals
  | eachMemberIn
  deriving DecidableEq, Repr, Inhabited

/-- A connective of any number of truth values. -/
inductive Junction where
  | and
  | or
  deriving DecidableEq, Repr, Inhabited

namespace Unary

/-- The name of a function of one value. -/
def name : Unary → String
  | .join _ => "Fn::Join"
  | .split _ => "Fn::Split"
  | .base64 => "Fn::Base64"
  | .not => "Fn::Not"
  | .length => "Fn::Length"
  | .toJsonString => "Fn::ToJsonString"

end Unary

namespace Binary

/-- The name of a function of two values. -/
def name : Binary → String
  | .select => "Fn::Select"
  | .equals => "Fn::Equals"
  | .contains => "Fn::Contains"
  | .eachMemberEquals => "Fn::EachMemberEquals"
  | .eachMemberIn => "Fn::EachMemberIn"

end Binary

namespace Junction

/-- The name of a connective. -/
def name : Junction → String
  | .and => "Fn::And"
  | .or => "Fn::Or"

end Junction

/-- A value with deferred parts. -/
inductive Expression where
  | null
  | bool (b : Bool)
  | number (n : Number)
  | string (s : String)
  | list (items : List Expression)
  | object (fields : List (String × Expression))
  /-- The value of a parameter, a pseudo-parameter or a resource. -/
  | ref (name : String)
  /-- An attribute of a resource. -/
  | getAtt (logicalId attr : String)
  /-- A text with placeholders, some of them bound to values of its own. -/
  | sub (text : String) (bound : List (String × Expression))
  /-- The values of all parameters of a type. -/
  | refAll (type : String)
  /-- The value of a condition of the template. -/
  | condition (name : String)
  /-- A choice by a condition of the template. -/
  | ifNamed (condition : String) (holds otherwise : Expression)
  /-- A choice by a truth value. -/
  | ifValue (condition holds otherwise : Expression)
  /-- The availability zones of a region. -/
  | getAZs (region : Expression)
  /-- A value from a mapping of the template. -/
  | findInMap (map top second : Expression)
  | unary (function : Unary) (argument : Expression)
  | binary (function : Binary) (first second : Expression)
  | junction (connective : Junction) (operands : List Expression)
  deriving Repr, Inhabited

namespace Expression

/-- The name of the function that is called at the top of an expression. -/
def functionName? : Expression → Option String
  | .null | .bool _ | .number _ | .string _ | .list _ | .object _ => none
  | .ref _ => some "Ref"
  | .getAtt _ _ => some "Fn::GetAtt"
  | .sub _ _ => some "Fn::Sub"
  | .refAll _ => some "Fn::RefAll"
  | .condition _ => some "Condition"
  | .ifNamed _ _ _ | .ifValue _ _ _ => some "Fn::If"
  | .getAZs _ => some "Fn::GetAZs"
  | .findInMap _ _ _ => some "Fn::FindInMap"
  | .unary function _ => some function.name
  | .binary function _ _ => some function.name
  | .junction connective _ => some connective.name

/-- The written form of a call. -/
def call (function : String) (argument : Json) : Json := .object [(function, argument)]

/-- The written form of the argument of a function of one value. -/
def unaryArgument (argument : Json) : Unary → Json
  | .join delimiter | .split delimiter => .list [.string delimiter, argument]
  | .not => .list [argument]
  | .base64 | .length | .toJsonString => argument

mutual

/-- The written form. -/
def toJson : Expression → Json
  | .null => .null
  | .bool b => .bool b
  | .number n => .number n
  | .string s => .string s
  | .list items => .list (toItems items)
  | .object fields => .object (toFields fields)
  | .ref name => call "Ref" (.string name)
  | .getAtt logicalId attr => call "Fn::GetAtt" (.list [.string logicalId, .string attr])
  | .sub text bound =>
    call "Fn::Sub" <|
      if bound.isEmpty then .string text
      else .list [.string text, .object (toFields bound)]
  | .refAll type => call "Fn::RefAll" (.string type)
  | .condition name => call "Condition" (.string name)
  | .ifNamed name holds otherwise =>
    call "Fn::If" (.list [.string name, toJson holds, toJson otherwise])
  | .ifValue test holds otherwise =>
    call "Fn::If" (.list [toJson test, toJson holds, toJson otherwise])
  | .getAZs region => call "Fn::GetAZs" (toJson region)
  | .findInMap map top second => call "Fn::FindInMap" (.list [toJson map, toJson top, toJson second])
  | .unary function argument => call function.name (unaryArgument (toJson argument) function)
  | .binary function first second => call function.name (.list [toJson first, toJson second])
  | .junction connective operands => call connective.name (.list (toItems operands))

/-- The written forms of some expressions. -/
def toItems : List Expression → List Json
  | [] => []
  | item :: rest => toJson item :: toItems rest

/-- The written forms of some fields. -/
def toFields : List (String × Expression) → List (String × Json)
  | [] => []
  | (key, value) :: rest => (key, toJson value) :: toFields rest

end

/-- Two expressions are equal, whatever the order of the fields of objects. -/
def same (left right : Expression) : Bool := left.toJson.same right.toJson

end Expression

end Reconcile
