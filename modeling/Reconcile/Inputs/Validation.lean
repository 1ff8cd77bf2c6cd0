import Reconcile.Inputs.Conditions
import Reconcile.Inputs.Parameters
import Reconcile.Inputs.PseudoParameters

/-!
# Validated inputs

What is checked before any resource is touched: the values of the parameters, the conditions
and the assertions of the rules.
-/

namespace Reconcile

/-- Parameters and conditions ready for a run. -/
structure Inputs where
  parameters : ParameterValues := {}
  conditions : ConditionValues := .empty
  deriving Inhabited

namespace Inputs

/-- What an evaluation may ask for apart from resources. -/
def capabilities (inputs : Inputs) (config : Config) : Capabilities where
  parameters := some inputs.parameters.values.get?
  conditions := some inputs.conditions.value
  pseudoParameters := some config.pseudoParameter?

end Inputs

namespace Template

/-- The truth value of an expression of a rule. -/
def assertedValue (template : Template) (capabilities : Capabilities) (expression : Expression) :
    Except EvaluationError Bool := do
  let resolution ← template.evaluate capabilities expression
  match ← resolution.realize with
  | .bool b => return b
  | .string _ => .error (.typeMismatch "Assert" "a boolean" "string")
  | _ => .error (.typeMismatch "Assert" "a boolean" "non-boolean value")

/-- Check the assertions of a rule from a number on. -/
def checkAssertions (template : Template) (capabilities : Capabilities) (rule : String) :
    Nat → List Assertion → Except StackError Unit
  | _, [] => .ok ()
  | number, assertion :: rest =>
    match template.assertedValue capabilities assertion.assert with
    | .error error => .error (.ruleAssertion rule error.message)
    | .ok true => template.checkAssertions capabilities rule (number + 1) rest
    | .ok false =>
      .error (.ruleAssertion rule
        (assertion.description.getD ("assertion #" ++ toString number ++ " evaluated to false")))

/-- Check a rule; it is passed over when its condition is false. -/
def checkRule (template : Template) (capabilities : Capabilities) (name : String) (rule : Rule) :
    Except StackError Unit :=
  match rule.condition.map (template.assertedValue capabilities) with
  | some (.error error) => .error (.ruleAssertion name error.message)
  | some (.ok false) => .ok ()
  | some (.ok true) | none => template.checkAssertions capabilities name 1 rule.assertions

/-- Validate supplied parameter values, evaluate the conditions and check every rule. -/
def validateInputs (template : Template) (supplied : Table String) (config : Config) :
    Except StackError Inputs := do
  let parameters ← ParameterValues.validate template.parameters supplied
  let conditions ←
    (template.conditionValues parameters.values.get? config.pseudoParameter?).mapError
      (.resolution "Conditions")
  let inputs : Inputs := ⟨parameters, conditions⟩
  template.rules.entries.forM fun (name, rule) =>
    template.checkRule (inputs.capabilities config) name rule
  return inputs

end Template

end Reconcile
