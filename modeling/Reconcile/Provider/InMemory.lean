import Reconcile.Provider.Basic
import Reconcile.Text.Lowercase

/-!
# Resources in memory

A provider that only remembers what it made.  Several of them share one memory, each with a
store of its own in which the resources are found by their physical ids.
-/

namespace Reconcile

/-- The memory of providers. -/
structure Memory where
  /-- The stores by name, each with its resources by physical id. -/
  stores : Table (Table PhysicalResource) := .empty
  /-- The logical ids of all resources made so far, in order. -/
  made : List String := []
  deriving Inhabited

namespace Memory

/-- The resources of a store. -/
def store (memory : Memory) (name : String) : Table PhysicalResource := (memory.stores.get? name).getD .empty

/-- Put a resource into a store. -/
def put (memory : Memory) (name physicalId : String) (resource : PhysicalResource) : Memory :=
  { memory with stores := memory.stores.insert name ((memory.store name).insert physicalId resource) }

/-- Take a resource out of a store. -/
def remove (memory : Memory) (name physicalId : String) : Memory :=
  { memory with
    stores := memory.stores.insert name ((memory.store name).filter fun id _ => id != physicalId) }

/-- The physical ids of all stores. -/
def physicalIds (memory : Memory) : List String := memory.stores.values.flatMap Table.names

end Memory

/-- Whether a value is neither a list nor an object. -/
def Json.isScalar : Json → Bool
  | .list _ | .object _ => false
  | _ => true

/-- The name that a resource of a type is known by everywhere. -/
def resourceName (type physicalId : String) : String :=
  "arn:stackwright:" ++ Text.replace "::" ":" (Text.lower type) ++ ":" ++ physicalId

/-- The resource with an id and some properties.  Its attributes are its id and name and the scalars
among the properties. -/
def PhysicalResource.materialize (type physicalId : String) (properties : Json) : PhysicalResource where
  type := type
  physicalId := some physicalId
  inputProperties := properties
  attributes :=
    let own := Table.ofList [("Id", .string physicalId), ("Arn", .string (resourceName type physicalId))]
    let fields :=
      match properties with
      | .object fields => fields
      | _ => []
    fields.foldl (fun attributes (name, value) =>
      if value.isScalar && !attributes.contains name then attributes.insert name value else attributes) own

/-- The settings of a provider that works in memory. -/
structure InMemory where
  /-- The name of its store. -/
  store : String
  /-- The padding that it asks for after every call. -/
  padding : Option Nat := none
  retryPolicy : RetryPolicy := .never
  refAttribute : Option String := none
  /-- What ends the physical id of a new resource, given those made before and its logical id. -/
  suffix : List String → String → String

namespace InMemory

/-- The number of a resource among all that were made for its logical id, as the end of an id. -/
def counted (made : List String) (logicalId : String) : String := toString (made.count logicalId + 1)

variable (settings : InMemory)

/-- The physical id of a new resource. -/
def physicalId (memory : Memory) (logicalId : String) : String :=
  Text.lower logicalId ++ "-" ++ settings.suffix memory.made logicalId

/-- The answer to a request and the memory after it. -/
def answer (request : Request) (memory : Memory) : Answer × Memory :=
  match request with
  | .create logicalId type properties =>
    let id := settings.physicalId memory logicalId
    let resource := PhysicalResource.materialize type id properties
    let after := memory.put settings.store id resource
    (.ok { resource, padding := settings.padding }, { after with made := memory.made ++ [logicalId] })
  | .update logicalId type properties previous =>
    match previous.physicalId with
    | none => (.error ["resource '" ++ logicalId ++ "' has no physical id to update"], memory)
    | some id =>
      let resource := PhysicalResource.materialize type id properties
      (.ok { resource, padding := settings.padding }, memory.put settings.store id resource)
  | .delete _ _ previous =>
    let after :=
      match previous.physicalId with
      | some id => memory.remove settings.store id
      | none => memory
    (.ok { padding := settings.padding }, after)

/-- The provider with these settings. -/
def provider : Provider Memory where
  retryPolicy := settings.retryPolicy
  refAttribute := fun _ => settings.refAttribute
  answer := settings.answer

end InMemory

end Reconcile
