import Reconcile.Template.Basic

/-!
# Written forms of templates

A template is written as an object with its sections in a fixed order.  Absent values and
empty sections are left out, except that the resources are always there.
-/

namespace Reconcile

/-- A field that is left out when its value is absent. -/
def optionalField {α : Type} (name : String) (write : α → Json) : Option α → List (String × Json)
  | some value => [(name, write value)]
  | none => []

/-- A section that is left out when it is empty. -/
def sectionField {α : Type} (name : String) (write : α → Json) (table : Table α) : List (String × Json) :=
  if table.isEmpty then [] else [(name, .ofTable (table.map write))]

/-- A real number as a value; one that is not finite has none. -/
def Extended.toJson : Extended → Json
  | .finite x => .number (.real x)
  | _ => .null

namespace Parameter

/-- The written form of a parameter. -/
def toJson (p : Parameter) : Json := .object <|
  [("Type", .string p.type.name)]
    ++ optionalField "Default" id p.default
    ++ optionalField "AllowedValues" .list p.allowedValues
    ++ optionalField "AllowedPattern" .string p.allowedPattern
    ++ optionalField "MinLength" .nat p.minLength
    ++ optionalField "MaxLength" .nat p.maxLength
    ++ optionalField "MinValue" Extended.toJson p.minValue
    ++ optionalField "MaxValue" Extended.toJson p.maxValue
    ++ optionalField "NoEcho" id p.noEcho
    ++ optionalField "Description" .string p.description
    ++ optionalField "ConstraintDescription" .string p.constraintDescription

end Parameter

namespace Resource

/-- The written form of a resource; the default deletion policy is left out. -/
def toJson (r : Resource) : Json := .object <|
  [("Type", .string r.type)]
    ++ optionalField "Properties" Expression.toJson r.properties
    ++ (if r.dependsOn.isEmpty then [] else [("DependsOn", .strings r.dependsOn)])
    ++ optionalField "Condition" .string r.condition
    ++ (if r.deletionPolicy = .delete then [] else [("DeletionPolicy", .string r.deletionPolicy.name)])
    ++ optionalField "UpdateReplacePolicy" .string r.updateReplacePolicy
    ++ optionalField "Metadata" id r.metadata

end Resource

/-- The written form of an assertion. -/
def Assertion.toJson (a : Assertion) : Json := .object <|
  [("Assert", a.assert.toJson)] ++ optionalField "AssertDescription" .string a.description

/-- The written form of a rule. -/
def Rule.toJson (r : Rule) : Json := .object <|
  optionalField "RuleCondition" Expression.toJson r.condition
    ++ [("Assertions", .list (r.assertions.map Assertion.toJson))]

/-- The written form of an output. -/
def Output.toJson (o : Output) : Json := .object <|
  [("Value", o.value.toJson)]
    ++ optionalField "Condition" .string o.condition
    ++ optionalField "Description" .string o.description
    ++ optionalField "Export" (fun name => .object [("Name", name.toJson)]) o.exportName

/-- The written form of a template. -/
def Template.toJson (t : Template) : Json := .object <|
  optionalField "AWSTemplateFormatVersion" .string t.formatVersion
    ++ optionalField "Description" .string t.description
    ++ sectionField "Parameters" Parameter.toJson t.parameters
    ++ sectionField "Conditions" Expression.toJson t.conditions
    ++ sectionField "Mappings" (fun mapping => .ofTable (mapping.map .ofTable)) t.mappings
    ++ sectionField "Rules" Rule.toJson t.rules
    ++ [("Resources", .ofTable (t.resources.map Resource.toJson))]
    ++ sectionField "Outputs" Output.toJson t.outputs

end Reconcile
