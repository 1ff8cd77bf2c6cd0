import Reconcile.Run.Drive

/-!
# What a run leaves

The outputs of a stack after a run, and the state that is recorded: every declared resource that
exists, and every recorded resource that was not removed, along with its definition.
-/

namespace Reconcile.Run

variable {σ : Type} (setting : Setting σ) (run : Run σ)

/-- The value of an output; none when its condition is false. -/
def output (output : Output) : Except EvaluationError (Option Json) := do
  if ← setting.inputs.conditions.isActive output.condition then
    let resolution ← setting.desired.evaluate (run.capabilities setting) output.value
    let value ← resolution.realize
    return some value
  else return none

/-- The values of the outputs that have one. -/
def outputs : Table Json :=
  .ofList <| setting.desired.outputs.entries.filterMap fun entry =>
    match run.output setting entry.2 with
    | .ok (some value) => some (entry.1, value)
    | _ => none

/-- The failures of outputs. -/
def outputFailures : List (String × StackError) :=
  setting.desired.outputs.entries.filterMap fun entry =>
    match run.output setting entry.2 with
    | .error error => some ("Outputs." ++ entry.1, .resolution entry.1 error)
    | _ => none

/-- What is recorded for a declared resource: what the run left, otherwise what was recorded before,
unless it was removed. -/
def recordedResource? (logicalId : String) : Option PhysicalResource :=
  match run.completed? logicalId with
  | some resource => some resource
  | none =>
    if (run.removal? logicalId).isSome then none else setting.previous.resources.get? logicalId

/-- The recorded resources that are no longer declared and were not removed. -/
def leftovers : List (String × PhysicalResource) :=
  setting.previous.resources.entries.filter fun entry =>
    !setting.desired.isResource entry.1 && (run.removal? entry.1).isNone

/-- The declared resources that are recorded. -/
def recordedResources : List (String × PhysicalResource) :=
  setting.desired.resources.names.filterMap fun logicalId =>
    (run.recordedResource? setting logicalId).map (logicalId, ·)

/-- The desired template with the definitions of resources that are left over. -/
def recordedTemplate : Template :=
  let add (resources : Table Resource) (entry : String × PhysicalResource) : Table Resource :=
    match setting.previous.template.resources.get? entry.1 with
    | some definition => if resources.contains entry.1 then resources else resources.insert entry.1 definition
    | none => resources
  { setting.desired with resources := (run.leftovers setting).foldl add setting.desired.resources }

/-- The state after a run. -/
def recordedState : StackState where
  template := run.recordedTemplate setting
  resources := .ofList (run.recordedResources setting ++ run.leftovers setting)
  outputs := run.outputs setting

/-- The time at which a run is over, once all padding has passed. -/
def elapsed : Nat := run.padding.wait run.now

end Reconcile.Run
