/-!
# Evaluation errors

Why an expression has no value, apart from values that are not available yet.
-/

namespace Reconcile

/-- The cause of a failed evaluation. -/
inductive EvaluationError where
  /-- A value was asked for while these dependencies are unresolved. -/
  | unresolvedAccess (dependencies : List String)
  | unknownReference (name : String)
  | missingParameterValue (name : String)
  | unknownPseudoParameter (name : String)
  | resourceExcluded (logicalId : String)
  | missingAttribute (logicalId attr : String)
  | invalidArguments (function reason : String)
  | indexOutOfRange (function : String) (index : Int) (length : Nat)
  | typeMismatch (function expected actual : String)
  | unknownSubVariable (name : String)
  | mappingLookup (map top second : String)
  | unknownCondition (name : String)
  | conditionCycle (name : String)
  deriving DecidableEq, Repr, Inhabited

namespace EvaluationError

/-- The name of the kind of an error. -/
def kind : EvaluationError → String
  | .unresolvedAccess _ => "UnresolvedAccess"
  | .unknownReference _ => "UnknownReference"
  | .missingParameterValue _ => "MissingParameterValue"
  | .unknownPseudoParameter _ => "UnknownPseudoParameter"
  | .resourceExcluded _ => "ResourceExcluded"
  | .missingAttribute _ _ => "MissingAttribute"
  | .invalidArguments _ _ => "InvalidArguments"
  | .indexOutOfRange _ _ _ => "IndexOutOfRange"
  | .typeMismatch _ _ _ => "TypeMismatch"
  | .unknownSubVariable _ => "UnknownSubVariable"
  | .mappingLookup _ _ _ => "MappingLookup"
  | .unknownCondition _ => "UnknownCondition"
  | .conditionCycle _ => "ConditionCycle"

/-- The error in words. -/
def message : EvaluationError → String
  | .unresolvedAccess dependencies =>
    "value accessed while dependencies are unresolved: " ++ String.intercalate ", " dependencies
  | .unknownReference name =>
    "'" ++ name ++ "' is not a declared parameter, resource or pseudo-parameter"
  | .missingParameterValue name => "parameter '" ++ name ++ "' has no value"
  | .unknownPseudoParameter name => "pseudo-parameter '" ++ name ++ "' is not supported"
  | .resourceExcluded logicalId =>
    "resource '" ++ logicalId ++ "' is excluded by its condition and cannot be referenced"
  | .missingAttribute logicalId attr =>
    "resource '" ++ logicalId ++ "' has no attribute '" ++ attr ++ "'"
  | .invalidArguments function reason => function ++ ": " ++ reason
  | .indexOutOfRange function index length =>
    function ++ ": index " ++ toString index ++ " is out of range for a list of "
      ++ toString length ++ " item(s)"
  | .typeMismatch function expected actual =>
    function ++ ": expected " ++ expected ++ ", got " ++ actual
  | .unknownSubVariable name =>
    "Fn::Sub: '$\x7b" ++ name
      ++ "\x7d' is neither a supplied variable, a pseudo-parameter, a parameter nor a resource"
  | .mappingLookup map top second =>
    "Fn::FindInMap: no value at [" ++ map ++ ", " ++ top ++ ", " ++ second ++ "]"
  | .unknownCondition name => "unknown condition '" ++ name ++ "'"
  | .conditionCycle name => "condition '" ++ name ++ "' depends on itself"

end EvaluationError

end Reconcile
