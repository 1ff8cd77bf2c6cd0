import Reconcile.Expression.Fingerprint
import Reconcile.Graph.Leveling
import Reconcile.Inputs.Validation
import Reconcile.Operation
import Reconcile.Plan.Deletion
import Reconcile.Provider.Basic

/-!
# Plans

What an update would do, found out without a call of any provider.  The resources are decided
in dependency order.  One that stays as it is counts as available to its dependents, one that
will be made or changed does not, so that its dependents are decided by their fingerprints.
-/

namespace Reconcile

/-- A resource that an update would make or may change. -/
structure PlannedChange where
  logicalId : String
  type : String
  operation : Operation
  /-- The differences of its properties, as far as they are known. -/
  patch : Patch := []
  deriving Inhabited

/-- The written form of a planned change. -/
def PlannedChange.toJson (change : PlannedChange) : Json := .object <|
  [("logicalId", .string change.logicalId), ("resourceType", .string change.type),
    ("operation", .string change.operation.name)]
    ++ if change.patch.isEmpty then [] else [("patch", .list (change.patch.map PatchStep.toJson))]

/-- What an update would do. -/
structure Plan where
  /-- Whether each asset exists. -/
  assets : Table Bool := .empty
  conditions : ConditionValues := .empty
  /-- The resources to be made or changed, dependencies first. -/
  changes : List PlannedChange := []
  /-- The resources to be deleted, dependents first. -/
  deletions : List String := []
  deriving Inhabited

namespace Plan

/-- Whether the update would change nothing. -/
def isEmpty (plan : Plan) : Bool := plan.changes.isEmpty && plan.deletions.isEmpty

/-- The planned change of a resource. -/
def change? (plan : Plan) (logicalId : String) : Option PlannedChange :=
  plan.changes.find? fun change => change.logicalId == logicalId

/-- The written form of a plan. -/
def toJson (plan : Plan) : Json := .object [
  ("assets", .ofTable (plan.assets.map .bool)),
  ("conditions", .ofTable (plan.conditions.map .bool)),
  ("changes", .list (plan.changes.map PlannedChange.toJson)),
  ("deletions", .strings plan.deletions)]

end Plan

/-- Whether a resource has a condition that is false. -/
def Template.isExcluded (template : Template) (conditions : ConditionValues) (logicalId : String) : Bool :=
  ((template.resources.get? logicalId).bind Resource.condition).any fun name =>
    conditions.get? name == some false

/-- The properties that are evaluated for a resource. -/
def Resource.desiredProperties (resource : Resource) : Expression := resource.properties.getD (.object [])

/-- The resources of a template as they are decided so far. -/
structure Planning where
  /-- Those that stay as they are. -/
  unchanged : List String := []
  /-- Those whose condition is false. -/
  excluded : List String := []
  /-- Those that will be made or may be changed. -/
  changes : Table PlannedChange := .empty
  deriving Inhabited

namespace Planning

variable {σ : Type} (previous : StackState) (desired : Template) (inputs : Inputs) (config : Config)
  (providers : Providers σ)

/-- What is known of resources while planning. -/
def view (planning : Planning) : ResourceView where
  availability logicalId :=
    if desired.isExcluded inputs.conditions logicalId then .excluded
    else if planning.unchanged.contains logicalId then
      match previous.resources.get? logicalId with
      | some resource => .available resource
      | none => .pending
    else .pending
  refAttribute := providers.refAttribute

/-- Decide one resource. -/
def next (planning : Planning) (logicalId : String) : Except StackError Planning :=
  match desired.resources.get? logicalId with
  | none => .ok planning
  | some resource => Except.mapError (.resolution logicalId) do
    if ← inputs.conditions.isActive resource.condition then
      let capabilities :=
        { inputs.capabilities config with
          resources := some (planning.view previous desired inputs providers) }
      let resolution ← desired.evaluate capabilities resource.desiredProperties
      let decision ← Decision.ofResolution (previous.resources.get? logicalId) (fingerprint resource.properties) resolution
      if decision.operation = .skip then
        return { planning with unchanged := planning.unchanged ++ [logicalId] }
      else
        let change : PlannedChange := ⟨logicalId, resource.type, decision.operation, decision.patch⟩
        return { planning with changes := planning.changes.insert logicalId change }
    else return { planning with excluded := planning.excluded ++ [logicalId] }

end Planning

/-- Plan the update of a state towards a template with a dependency graph. -/
def planUpdate {σ : Type} (previous : StackState) (desired : Template) (graph : Graph) (inputs : Inputs)
    (config : Config) (providers : Providers σ) : Except StackError Plan := do
  let order ← graph.topologicalOrder
  let planning ← order.foldlM (Planning.next previous desired inputs config providers) {}
  let leveling ← graph.level true
  return {
    conditions := inputs.conditions
    changes := leveling.ordered.filterMap fun entry => planning.changes.get? entry.1
    deletions := previous.deletionOrder desired planning.excluded }

end Reconcile
