import Reconcile.Template.Basic
import Reconcile.Text.Scan

/-!
# Physical resources and the state of a stack

A physical resource records what a provider made of a resource.  The state of a stack holds
the template that was last applied, the physical resources and the values of the outputs.
-/

namespace Reconcile

/-- The materialized counterpart of a resource. -/
structure PhysicalResource where
  type : String
  /-- The identifier assigned by the provider. -/
  physicalId : Option String := none
  /-- The properties that were last applied. -/
  inputProperties : Json := .null
  /-- The values that the provider exposes. -/
  attributes : Table Json := .empty
  /-- The fingerprint of the unevaluated properties that were last applied. -/
  propertiesHash : Option String := none
  deriving Inhabited

namespace PhysicalResource

/-- Follow the names of a path into nested objects. -/
def descend : List String → Json → Option Json
  | [], value => some value
  | name :: path, value => (value.field? name).bind (descend path)

/-- The value of an attribute: the one with exactly this name, otherwise the one at the end of the
path that the parts between dots describe. -/
def attribute? (resource : PhysicalResource) (name : String) : Option Json :=
  match resource.attributes.get? name with
  | some value => some value
  | none =>
    match Text.split "." name with
    | [] => none
    | first :: path => (resource.attributes.get? first).bind (descend path)

/-- Equality of physical resources. -/
def same (r s : PhysicalResource) : Bool :=
  r.type == s.type
    && r.physicalId == s.physicalId
    && r.inputProperties.same s.inputProperties
    && r.attributes.agrees Json.same s.attributes
    && r.propertiesHash == s.propertiesHash

end PhysicalResource

/-- The record of a deployed stack. -/
structure StackState where
  template : Template := .empty
  resources : Table PhysicalResource := .empty
  outputs : Table Json := .empty
  deriving Inhabited

namespace StackState

/-- The state of a stack without resources. -/
def empty : StackState := {}

/-- Equality of states. -/
def same (s t : StackState) : Bool :=
  s.template.same t.template
    && s.resources.agrees PhysicalResource.same t.resources
    && s.outputs.agrees Json.same t.outputs

end StackState

end Reconcile
