import Reconcile.Expression.Basic

/-!
# Templates

A template describes the desired resources of a stack: their types, their properties as
expressions, and how they hang together, along with parameters, conditions, mappings, rules
and outputs.
-/

namespace Reconcile

/-- What happens to the physical counterpart of a resource that leaves its stack. -/
inductive DeletionPolicy where
  | delete
  | retain
  | snapshot
  deriving DecidableEq, Repr, Inhabited

/-- The written form of a deletion policy. -/
def DeletionPolicy.name : DeletionPolicy → String
  | .delete => "Delete"
  | .retain => "Retain"
  | .snapshot => "Snapshot"

/-- The type of a parameter. -/
inductive ParameterType where
  | string
  | number
  | numberList
  | commaDelimitedList
  /-- Any other type, whose values are texts. -/
  | other (name : String)
  deriving DecidableEq, Repr, Inhabited

namespace ParameterType

/-- The type with a name. -/
def ofName : String → ParameterType
  | "String" => .string
  | "Number" => .number
  | "List<Number>" => .numberList
  | "CommaDelimitedList" => .commaDelimitedList
  | name => .other name

/-- The name of a type. -/
def name : ParameterType → String
  | .string => "String"
  | .number => "Number"
  | .numberList => "List<Number>"
  | .commaDelimitedList => "CommaDelimitedList"
  | .other name => name

/-- Whether the values of a type are numbers or lists of numbers. -/
def isNumeric : ParameterType → Bool
  | .number | .numberList => true
  | _ => false

end ParameterType

/-- A parameter of a template, with the constraints on its values. -/
structure Parameter where
  type : ParameterType
  default : Option Json := none
  allowedValues : Option (List Json) := none
  allowedPattern : Option String := none
  minLength : Option Nat := none
  maxLength : Option Nat := none
  minValue : Option Extended := none
  maxValue : Option Extended := none
  noEcho : Option Json := none
  description : Option String := none
  constraintDescription : Option String := none
  deriving Inhabited

/-- A resource of a template. -/
structure Resource where
  type : String
  properties : Option Expression := none
  dependsOn : List String := []
  condition : Option String := none
  deletionPolicy : DeletionPolicy := .delete
  updateReplacePolicy : Option String := none
  metadata : Option Json := none
  deriving Inhabited

/-- An assertion of a rule. -/
structure Assertion where
  assert : Expression
  description : Option String := none
  deriving Inhabited

/-- A rule: assertions on the parameters, checked when its condition holds. -/
structure Rule where
  condition : Option Expression := none
  assertions : List Assertion := []
  deriving Inhabited

/-- An output of a stack. -/
structure Output where
  value : Expression
  condition : Option String := none
  description : Option String := none
  exportName : Option Expression := none
  deriving Inhabited

/-- The desired state of a stack. -/
structure Template where
  formatVersion : Option String := none
  description : Option String := none
  parameters : Table Parameter := .empty
  conditions : Table Expression := .empty
  mappings : Table (Table (Table Json)) := .empty
  rules : Table Rule := .empty
  resources : Table Resource := .empty
  outputs : Table Output := .empty
  deriving Inhabited

/-- Whether a name is that of a pseudo-parameter. -/
def isPseudoParameter (name : String) : Bool := "AWS::".toList.isPrefixOf name.toList

namespace Template

/-- The template without resources. -/
def empty : Template := {}

/-- Whether a name is that of a parameter. -/
def isParameter (template : Template) (name : String) : Bool := template.parameters.contains name

/-- Whether a name is that of a resource. -/
def isResource (template : Template) (name : String) : Bool := template.resources.contains name

end Template

/-! ### Equality -/

/-- Equality of optional values that are compared by a test. -/
def sameOption {α : Type} (same : α → α → Bool) : Option α → Option α → Bool
  | none, none => true
  | some a, some b => same a b
  | _, _ => false

/-- Equality of lists whose items are compared by a test. -/
def sameList {α : Type} (same : α → α → Bool) : List α → List α → Bool
  | [], [] => true
  | a :: as, b :: bs => same a b && sameList same as bs
  | _, _ => false

namespace Parameter

/-- Equality of parameters. -/
def same (p q : Parameter) : Bool :=
  p.type == q.type
    && sameOption Json.same p.default q.default
    && sameOption (sameList Json.same) p.allowedValues q.allowedValues
    && p.allowedPattern == q.allowedPattern
    && p.minLength == q.minLength
    && p.maxLength == q.maxLength
    && sameOption Extended.same p.minValue q.minValue
    && sameOption Extended.same p.maxValue q.maxValue
    && sameOption Json.same p.noEcho q.noEcho
    && p.description == q.description
    && p.constraintDescription == q.constraintDescription

end Parameter

namespace Resource

/-- Equality of resources. -/
def same (r s : Resource) : Bool :=
  r.type == s.type
    && sameOption Expression.same r.properties s.properties
    && r.dependsOn == s.dependsOn
    && r.condition == s.condition
    && r.deletionPolicy == s.deletionPolicy
    && r.updateReplacePolicy == s.updateReplacePolicy
    && sameOption Json.same r.metadata s.metadata

end Resource

/-- Equality of assertions. -/
def Assertion.same (a b : Assertion) : Bool :=
  a.assert.same b.assert && a.description == b.description

/-- Equality of rules. -/
def Rule.same (a b : Rule) : Bool :=
  sameOption Expression.same a.condition b.condition
    && sameList Assertion.same a.assertions b.assertions

/-- Equality of outputs. -/
def Output.same (a b : Output) : Bool :=
  a.value.same b.value
    && a.condition == b.condition
    && a.description == b.description
    && sameOption Expression.same a.exportName b.exportName

/-- Equality of templates, whatever the order of their sections' entries. -/
def Template.same (s t : Template) : Bool :=
  s.formatVersion == t.formatVersion
    && s.description == t.description
    && s.parameters.agrees Parameter.same t.parameters
    && s.conditions.agrees Expression.same t.conditions
    && s.mappings.agrees (Table.agrees (Table.agrees Json.same)) t.mappings
    && s.rules.agrees Rule.same t.rules
    && s.resources.agrees Resource.same t.resources
    && s.outputs.agrees Output.same t.outputs

end Reconcile
