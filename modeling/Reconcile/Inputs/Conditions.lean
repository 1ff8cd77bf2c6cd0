import Reconcile.Evaluation.Evaluate

/-!
# Condition values

The truth values of the conditions of a template.  Conditions depend on parameters,
pseudo-parameters, mappings and each other; one that depends on itself has no value.
-/

namespace Reconcile

/-- The truth values of conditions, by name. -/
abbrev ConditionValues := Table Bool

namespace ConditionValues

/-- The value of a condition. -/
def value (values : ConditionValues) (name : String) : Except EvaluationError Bool :=
  match values.get? name with
  | some b => .ok b
  | none => .error (.unknownCondition name)

/-- Whether what is guarded by a condition takes part; without a condition it does. -/
def isActive (values : ConditionValues) : Option String → Except EvaluationError Bool
  | some name => values.value name
  | none => .ok true

end ConditionValues

namespace Template

/-- The truth value of a condition, given what may be asked for apart from conditions, while the
conditions `visiting` are being evaluated.  The bound on the depth is never reached when it exceeds
the number of conditions. -/
def conditionValue (template : Template) (capabilities : Capabilities) :
    Nat → List String → String → Except EvaluationError Bool
  | 0, _, name => .error (.conditionCycle name)
  | depth + 1, visiting, name =>
    if visiting.contains name then .error (.conditionCycle name)
    else
      match template.conditions.get? name with
      | none => .error (.unknownCondition name)
      | some expression => do
        let resolution ← template.evaluate
          { capabilities with
            conditions := some (template.conditionValue capabilities depth (name :: visiting)) }
          expression
        let value ← resolution.realize
        value.expectBool "Condition"

/-- The truth values of all conditions of a template. -/
def conditionValues (template : Template) (parameters pseudoParameters : String → Option Json) :
    Except EvaluationError ConditionValues := do
  let capabilities : Capabilities :=
    { parameters := some parameters, pseudoParameters := some pseudoParameters }
  let values ← template.conditions.names.mapM fun name => do
    let value ← template.conditionValue capabilities (template.conditions.size + 1) [] name
    return (name, value)
  return Table.ofList values

end Template

end Reconcile
