import Reconcile.Evaluation.Error
import Reconcile.Number.Layout
import Reconcile.Template.Basic

/-!
# Stack errors

Why a stack was not updated, deleted or planned.  Errors of documents, references, parameters,
rules and configurations arise before any resource is touched; the others belong to a run.
-/

namespace Reconcile

/-- A call of a provider. -/
inductive CallKind where
  | create
  | update
  | delete
  deriving DecidableEq, Repr, Inhabited

/-- The name of a kind of call. -/
def CallKind.name : CallKind → String
  | .create => "CREATE"
  | .update => "UPDATE"
  | .delete => "DELETE"

/-- What is wrong with the value of a parameter. -/
inductive Violation where
  | notDeclared
  | noValue
  | notNumber (value : String)
  | belowMinimum (value : String) (bound : Extended)
  | aboveMaximum (value : String) (bound : Extended)
  | tooShort (length bound : Nat)
  | tooLong (length bound : Nat)
  | invalidPattern (pattern : String)
  | noMatch (value pattern : String)
  | notAllowed (value : String) (choices : List String)
  deriving DecidableEq, Repr, Inhabited

/-- The violation in words. -/
def Violation.text : Violation → String
  | .notDeclared => "parameter is not declared by the template"
  | .noValue => "no value supplied and no Default declared"
  | .notNumber value => "'" ++ value ++ "' is not a number"
  | .belowMinimum value bound => value ++ " is less than MinValue " ++ bound.messageText
  | .aboveMaximum value bound => value ++ " is greater than MaxValue " ++ bound.messageText
  | .tooShort length bound =>
    "length " ++ toString length ++ " is shorter than MinLength " ++ toString bound
  | .tooLong length bound =>
    "length " ++ toString length ++ " is longer than MaxLength " ++ toString bound
  | .invalidPattern pattern => "AllowedPattern '" ++ pattern ++ "' is not a valid regex"
  | .noMatch value pattern => "'" ++ value ++ "' does not match AllowedPattern '" ++ pattern ++ "'"
  | .notAllowed value choices =>
    "'" ++ value ++ "' is not one of the AllowedValues [" ++ String.intercalate ", " choices ++ "]"

/-- Why a stack was not updated, deleted or planned. -/
inductive StackError where
  /-- These resources lie on cycles of references. -/
  | circularDependency (logicalIds : List String)
  /-- A resource mentions a name that nothing has; the closest name is a suggestion. -/
  | missingReference (logicalId reference : String) (closest : Option String)
  | templateParse (reason : String)
  /-- A parameter has a wrong value; its declaration may say more about its constraints. -/
  | parameterValidation (parameter : String) (violation : Violation) (description : Option String)
  | ruleAssertion (rule description : String)
  | resolution (logicalId : String) (source : EvaluationError)
  | dependencyFailed (logicalId dependency : String)
  | dependentNotDeleted (logicalId dependent : String)
  | providerNotFound (resourceType : String)
  | providerFailed (logicalId : String) (operation : CallKind) (attempts : Nat) (cause : String)
  | unsupportedDeletionPolicy (logicalId : String) (policy : DeletionPolicy)
  | configError (message : String)
  /-- These parts of an update failed. -/
  | updateFailed (failures : List (String × StackError))
  /-- These parts of a deletion failed. -/
  | deleteFailed (failures : List (String × StackError))
  deriving Repr, Inhabited

namespace StackError

/-- The reason of a parameter error. -/
def violationText (violation : Violation) (description : Option String) : String :=
  match description with
  | some description => violation.text ++ " (" ++ description ++ ")"
  | none => violation.text

mutual

/-- The error in words. -/
def message : StackError → String
  | .circularDependency logicalIds =>
    "Circular dependency detected between resources: " ++ String.intercalate ", " logicalIds
  | .missingReference logicalId reference _ =>
    "Resource '" ++ logicalId ++ "' references undeclared name '" ++ reference ++ "'"
  | .templateParse reason => "Invalid template: " ++ reason
  | .parameterValidation parameter violation description =>
    "Parameter '" ++ parameter ++ "' is invalid: " ++ violationText violation description
  | .ruleAssertion rule description => "Rule '" ++ rule ++ "' failed: " ++ description
  | .resolution logicalId source => "Failed to resolve '" ++ logicalId ++ "': " ++ source.message
  | .dependencyFailed logicalId dependency =>
    "Resource '" ++ logicalId ++ "' was not attempted because dependency '" ++ dependency ++ "' failed"
  | .dependentNotDeleted logicalId dependent =>
    "Resource '" ++ logicalId ++ "' was not deleted because dependent '" ++ dependent
      ++ "' could not be deleted"
  | .providerNotFound resourceType =>
    "No resource provider registered for type '" ++ resourceType
      ++ "' and no default provider is configured"
  | .providerFailed logicalId operation attempts cause =>
    operation.name ++ " of '" ++ logicalId ++ "' failed after " ++ toString attempts
      ++ " attempt(s): " ++ cause
  | .unsupportedDeletionPolicy logicalId policy =>
    "Resource '" ++ logicalId ++ "' uses DeletionPolicy '" ++ policy.name ++ "', which is not supported"
  | .configError message => "Configuration error: " ++ message
  | .updateFailed failures =>
    "Stack update failed for " ++ toString failures.length ++ " resource(s): "
      ++ String.intercalate "; " (failureTexts failures)
  | .deleteFailed failures =>
    "Stack deletion failed for " ++ toString failures.length ++ " resource(s): "
      ++ String.intercalate "; " (failureTexts failures)

/-- Failures in words, each after the logical id that it belongs to. -/
def failureTexts : List (String × StackError) → List String
  | [] => []
  | (logicalId, error) :: rest => (logicalId ++ ": " ++ message error) :: failureTexts rest

end

/-- Whether an error arises before any resource is touched. -/
def isPreflight : StackError → Bool
  | .circularDependency _ | .missingReference _ _ _ | .templateParse _ | .parameterValidation _ _ _
  | .ruleAssertion _ _ | .configError _ => true
  | _ => false

/-- The failures of a run. -/
def failures : StackError → List (String × StackError)
  | .updateFailed failures | .deleteFailed failures => failures
  | _ => []

/-- The failure of a logical id in a run, the first one if there are several. -/
def failureFor? (error : StackError) (logicalId : String) : Option StackError :=
  lookup logicalId error.failures

end StackError

end Reconcile
