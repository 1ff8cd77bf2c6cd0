import Reconcile.Json.Reader
import Reconcile.Run.Record
import Reconcile.State.Document

/-!
# Stacks

A stack is what is recorded of deployed resources, with the configuration and the providers to
change them.  It is updated towards a template, deleted, or asked for the plan of an update.  The
errors that arise before any resource is touched leave it as it is.
-/

namespace Reconcile

/-- A source of what is known of assets. -/
structure AssetStore where
  assetIds : List String
  isPublished : String → Bool

/-- A deployed stack and the means to change it. -/
structure Stack (σ : Type) where
  config : Config
  providers : Providers σ
  state : StackState := .empty
  assets : Option AssetStore := none
  /-- What was counted in the latest run. -/
  metrics : Metrics := .empty

/-- What became of a stack. -/
structure Report (σ : Type) where
  stack : Stack σ
  world : σ
  /-- Whether it came to an end.  A run in which a task waits for itself does not. -/
  isOver : Bool := true
  /-- The reason why not all went well. -/
  error : Option StackError := none
  /-- The calls of providers, in order. -/
  calls : List Call := []
  /-- The time it took, in milliseconds. -/
  elapsed : Nat := 0

namespace Stack

variable {σ : Type} (stack : Stack σ)

/-- What is checked before any resource is touched: the dependency graph and the inputs. -/
def preflight (template : Template) (parameters : Table String) : Except StackError (Graph × Inputs) := do
  let graph ← template.acyclicGraph
  let inputs ← template.validateInputs parameters stack.config
  return (graph, inputs)

/-- The setting of an update. -/
def updateSetting (template : Template) (inputs : Inputs) : Setting σ where
  previous := stack.state
  desired := template
  inputs := inputs
  config := stack.config
  providers := stack.providers

/-- The setting of a deletion. -/
def deleteSetting : Setting σ := stack.updateSetting .empty {}

/-- The declared resources whose condition is false. -/
def excluded (template : Template) (inputs : Inputs) : List String :=
  (template.resources.entries.filter fun entry =>
    match inputs.conditions.isActive entry.2.condition with
    | .ok active => !active
    | .error _ => false).map (·.1)

/-- The run of an update: the declared resources are brought up to date, and if that succeeds the
recorded ones that have to go are deleted. -/
def updateRun (template : Template) (inputs : Inputs) (world : σ) : Run σ :=
  let setting := stack.updateSetting template inputs
  let run := setting.updateAll template.resources.names (setting.start world)
  if run.isOver && (run.failures (template.resources.names.map .update)).isEmpty then
    setting.deleteAll (stack.state.deletionOrder template (excluded template inputs)) run
  else run

/-- The failures of an update; those of outputs count only if there are no others. -/
def updateFailures (setting : Setting σ) (run : Run σ) (deleted : List String) : List (String × StackError) :=
  match run.failures (setting.desired.resources.names.map .update ++ deleted.map .delete) with
  | [] => run.outputFailures setting
  | failures => failures

/-- What became of a stack in the run of an update. -/
def updateReport (template : Template) (inputs : Inputs) (run : Run σ) : Report σ :=
  let setting := stack.updateSetting template inputs
  let deleted := stack.state.deletionOrder template (excluded template inputs)
  let failures := updateFailures setting run deleted
  { stack := { stack with state := run.recordedState setting, metrics := run.metrics }
    world := run.world
    isOver := run.isOver
    error := if failures.isEmpty then none else some (.updateFailed failures)
    calls := run.calls
    elapsed := run.elapsed }

/-- Bring a stack to the state that a template describes. -/
def update (template : Template) (parameters : Table String) (world : σ) : Report σ :=
  match stack.preflight template parameters with
  | .error error => { stack, world, error := some error }
  | .ok (_, inputs) => stack.updateReport template inputs (stack.updateRun template inputs world)

/-- The run of a deletion. -/
def deleteRun (world : σ) : Run σ :=
  let setting := stack.deleteSetting
  setting.deleteAll (stack.state.deletionOrder .empty []) (setting.start world)

/-- What became of a stack in the run of a deletion.  When some resources could not be deleted, only those
that were are recorded no longer. -/
def deleteReport (run : Run σ) : Report σ :=
  let failures := run.failures ((stack.state.deletionOrder .empty []).map .delete)
  let remaining : StackState :=
    { stack.state with
      resources := stack.state.resources.filter fun logicalId _ => (run.removal? logicalId).isNone }
  { stack :=
      { stack with
        state := if failures.isEmpty then .empty else remaining
        metrics := run.metrics }
    world := run.world
    isOver := run.isOver
    error := if failures.isEmpty then none else some (.deleteFailed failures)
    calls := run.calls
    elapsed := run.elapsed }

/-- Delete every recorded resource, dependents first. -/
def delete (world : σ) : Report σ := stack.deleteReport (stack.deleteRun world)

/-- What an update would do. -/
def plan (template : Template) (parameters : Table String) : Except StackError Plan := do
  let (graph, inputs) ← stack.preflight template parameters
  let plan ← planUpdate stack.state template graph inputs stack.config stack.providers
  match stack.assets with
  | none => return plan
  | some store => return { plan with assets := .ofList (store.assetIds.map fun id => (id, store.isPublished id)) }

/-- The stack with its recorded state written and read back; what is known of assets and of earlier
runs is not recorded. -/
def reload : Except String (Stack σ) := do
  let state ← Document.stackState (← Json.read stack.state.toJson.pretty)
  return { config := stack.config, providers := stack.providers, state }

/-- A stack in diagnostics. -/
def text : String :=
  "Stack \x7b stack_name: " ++ Text.shown stack.config.stackName
    ++ ", resources: " ++ toString stack.state.resources.size
    ++ ", has_asset_store: " ++ boolText stack.assets.isSome ++ ", .. \x7d"

end Stack

end Reconcile
