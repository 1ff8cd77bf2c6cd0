import Reconcile.State.Basic
import Reconcile.Template.Reading
import Reconcile.Template.Writing

/-!
# States as documents

Reading and writing of physical resources and of the states of stacks.
-/

namespace Reconcile

/-- The written form of a physical resource. -/
def PhysicalResource.toJson (r : PhysicalResource) : Json := .object <|
  [("type", .string r.type)]
    ++ optionalField "physicalId" .string r.physicalId
    ++ [("inputProperties", r.inputProperties), ("attributes", .ofTable r.attributes)]
    ++ optionalField "propertiesHash" .string r.propertiesHash

/-- The written form of a state. -/
def StackState.toJson (s : StackState) : Json := .object [
  ("template", s.template.toJson),
  ("resources", .ofTable (s.resources.map PhysicalResource.toJson)),
  ("outputs", .ofTable s.outputs)]

namespace Document

/-- Where a physical resource is wanted. -/
def physicalResource : Decoder PhysicalResource := fun document => do
  let fields ← record ["type", "physicalId", "inputProperties", "attributes", "propertiesHash"] document
  return {
    type := ← fields.required "type" string
    physicalId := ← fields.optional "physicalId" string
    inputProperties := ← fields.withDefault "inputProperties" .null toJson
    attributes := ← fields.withDefault "attributes" .empty (tableOf toJson)
    propertiesHash := ← fields.optional "propertiesHash" string }

/-- Where the state of a stack is wanted. -/
def stackState : Decoder StackState := fun document => do
  let fields ← record ["template", "resources", "outputs"] document
  return {
    template := ← fields.required "template" template
    resources := ← fields.withDefault "resources" .empty (tableOf physicalResource)
    outputs := ← fields.withDefault "outputs" .empty (tableOf toJson) }

end Document

/-- The physical resource that a value writes. -/
def PhysicalResource.ofJson (value : Json) : Except String PhysicalResource :=
  Document.physicalResource (.ofJson value)

/-- The state that a value writes. -/
def StackState.ofJson (value : Json) : Except String StackState := Document.stackState (.ofJson value)

end Reconcile
