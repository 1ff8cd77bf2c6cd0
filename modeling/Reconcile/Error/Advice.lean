import Reconcile.Error.Basic

/-!
# Advice on errors

An error as it is shown to a user: with details that explain it and a suggestion of what to
do about it, where there is something to say.
-/

namespace Reconcile

/-- An error with what there is to say about it. -/
structure Advice where
  error : StackError
  suggestion : Option String := none
  details : Option String := none

namespace Advice

/-- What there is to say about an error. -/
def ofError (error : StackError) : Advice :=
  match error with
  | .circularDependency _ =>
    { error
      suggestion :=
        some "Break the cycle by removing a Ref/Fn::GetAtt/DependsOn between the listed resources"
      details := some <| "Resources are created in dependency order, which is impossible when they "
        ++ "reference each other" }
  | .missingReference _ _ (some closest) =>
    { error, suggestion := some ("Did you mean '" ++ closest ++ "'?") }
  | .missingReference _ _ none =>
    { error, suggestion := some "Declare the referenced name under Resources or Parameters" }
  | .parameterValidation _ _ _ =>
    { error
      suggestion :=
        some "Pass a value that satisfies the parameter's Type, AllowedValues and AllowedPattern"
      details := some "Parameters are validated before any resource is touched" }
  | .ruleAssertion _ _ =>
    { error, suggestion := some "Adjust the parameter values so that every rule assertion holds" }
  | .providerNotFound _ =>
    { error
      suggestion :=
        some "Register a provider for this resource type or configure a default provider"
      details := some "Missing providers are configuration errors and are never retried" }
  | .unsupportedDeletionPolicy _ _ =>
    { error, suggestion := some "Use DeletionPolicy 'Delete' or 'Retain'" }
  | .updateFailed _ =>
    { error
      details := some <| "Resources that succeeded were recorded in the stack state; rerun to retry the "
        ++ "failed ones" }
  | .deleteFailed _ =>
    { error, details := some "Resources that were not deleted remain in the stack state" }
  | error => { error }

/-- The advice as one text. -/
def text (advice : Advice) : String :=
  let details := (advice.details.map ("\n\nDetails: " ++ ·)).getD ""
  let suggestion := (advice.suggestion.map ("\n\nSuggestion: " ++ ·)).getD ""
  advice.error.message ++ details ++ suggestion

/-- The advice as the lines of a report, each failure of a run on a line of its own. -/
def report (advice : Advice) : String :=
  let failures :=
    advice.error.failures.map fun (logicalId, error) => "  - " ++ logicalId ++ ": " ++ error.message ++ "\n"
  let details := (advice.details.map fun text => "details: " ++ text ++ "\n").getD ""
  let suggestion := (advice.suggestion.map fun text => "suggestion: " ++ text ++ "\n").getD ""
  "error: " ++ advice.error.message ++ "\n" ++ String.join failures ++ details ++ suggestion

end Advice

/-- An error that is none of a stack: a document that could not be read, or a chain of messages
with the outermost first. -/
inductive Failure where
  | stack (error : StackError)
  | json (reason : String)
  | yaml (reason : String)
  | toml (reason : String)
  | other (chain : List String)

/-- What there is to say about any error. -/
def Failure.advice : Failure → Advice
  | .stack error => .ofError error
  | .json reason =>
    { error := .templateParse reason
      suggestion := some "Check the JSON syntax of the template or state file" }
  | .yaml reason =>
    { error := .templateParse reason
      suggestion := some "Check the YAML syntax and indentation of the template" }
  | .toml reason =>
    { error := .configError reason
      suggestion := some "Check the TOML syntax of the configuration file" }
  | .other chain => { error := .configError (String.intercalate ": " chain) }

end Reconcile
