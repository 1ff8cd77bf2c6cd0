import Reconcile.Document.Basic
import Reconcile.Expression.Reading
import Reconcile.Template.Basic

/-!
# Reading templates

A template is read from a document section by section.  Optional fields may be null, and
then count as absent; a field that is required, or that holds a map or a list, may not.
-/

namespace Reconcile

namespace Document

/-- Where an expression is wanted. -/
def expression : Decoder Expression := fun document => do
  let value ← document.toJson
  (Expression.parse value).mapError ExpressionError.message

/-- A list of texts, or a single text for a list of one. -/
def oneOrMany : Decoder (List String) := fun document => do
  let text : Json → Except String String
    | .string s => .ok s
    | _ => .error "expected a string or a list of strings"
  match ← document.toJson with
  | .list items => items.mapM text
  | value => (text value).map ([·])

/-- Where a deletion policy is wanted. -/
def deletionPolicy : Decoder DeletionPolicy :=
  oneOf [("Delete", .delete), ("Retain", .retain), ("Snapshot", .snapshot)]

/-- Where a parameter is wanted. -/
def parameter : Decoder Parameter := fun document => do
  let fields ← record ["Type", "Default", "AllowedValues", "AllowedPattern", "MinLength", "MaxLength",
    "MinValue", "MaxValue", "NoEcho", "Description", "ConstraintDescription"] document
  return {
    type := .ofName (← fields.required "Type" string)
    default := ← fields.optional "Default" toJson
    allowedValues := ← fields.optional "AllowedValues" (listOf toJson)
    allowedPattern := ← fields.optional "AllowedPattern" string
    minLength := ← fields.optional "MinLength" count
    maxLength := ← fields.optional "MaxLength" count
    minValue := ← fields.optional "MinValue" real
    maxValue := ← fields.optional "MaxValue" real
    noEcho := ← fields.optional "NoEcho" toJson
    description := ← fields.optional "Description" string
    constraintDescription := ← fields.optional "ConstraintDescription" string }

/-- Where a resource is wanted. -/
def resource : Decoder Resource := fun document => do
  let fields ← record ["Type", "Properties", "DependsOn", "Condition", "DeletionPolicy",
    "UpdateReplacePolicy", "Metadata"] document
  return {
    type := ← fields.required "Type" string
    properties := ← fields.optional "Properties" expression
    dependsOn := ← fields.withDefault "DependsOn" [] oneOrMany
    condition := ← fields.optional "Condition" string
    deletionPolicy := ← fields.withDefault "DeletionPolicy" .delete deletionPolicy
    updateReplacePolicy := ← fields.optional "UpdateReplacePolicy" string
    metadata := ← fields.optional "Metadata" toJson }

/-- Where an assertion is wanted. -/
def assertion : Decoder Assertion := fun document => do
  let fields ← record ["Assert", "AssertDescription"] document
  return {
    assert := ← fields.required "Assert" expression
    description := ← fields.optional "AssertDescription" string }

/-- Where a rule is wanted. -/
def rule : Decoder Rule := fun document => do
  let fields ← record ["RuleCondition", "Assertions"] document
  return {
    condition := ← fields.optional "RuleCondition" expression
    assertions := ← fields.withDefault "Assertions" [] (listOf assertion) }

/-- Where the export settings of an output are wanted. -/
def exportName : Decoder Expression := fun document => do
  let fields ← record ["Name"] document
  fields.required "Name" expression

/-- Where an output is wanted. -/
def output : Decoder Output := fun document => do
  let fields ← record ["Value", "Condition", "Description", "Export"] document
  return {
    value := ← fields.required "Value" expression
    condition := ← fields.optional "Condition" string
    description := ← fields.optional "Description" string
    exportName := ← fields.optional "Export" exportName }

/-- Where a template is wanted. -/
def template : Decoder Template := fun document => do
  let fields ← record ["AWSTemplateFormatVersion", "Description", "Parameters", "Conditions", "Mappings",
    "Rules", "Resources", "Outputs"] document
  return {
    formatVersion := ← fields.optional "AWSTemplateFormatVersion" string
    description := ← fields.optional "Description" string
    parameters := ← fields.withDefault "Parameters" .empty (tableOf parameter)
    conditions := ← fields.withDefault "Conditions" .empty (tableOf expression)
    mappings := ← fields.withDefault "Mappings" .empty (tableOf (tableOf (tableOf toJson)))
    rules := ← fields.withDefault "Rules" .empty (tableOf rule)
    resources := ← fields.required "Resources" (tableOf resource)
    outputs := ← fields.withDefault "Outputs" .empty (tableOf output) }

end Document

/-- The template that a value writes. -/
def Template.ofJson (value : Json) : Except String Template := Document.template (.ofJson value)

end Reconcile
