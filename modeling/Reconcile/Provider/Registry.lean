import Reconcile.Error.Basic
import Reconcile.Text.Quoted

/-!
# Registries

A registry makes what serves a type of resource when it is first asked for, from what is
registered for the type or else from the default, and hands out the same thing ever after.
-/

namespace Reconcile

/-- A registry of things made for types of resources. -/
structure Registry (α : Type) where
  /-- What makes the thing for a type that is registered. -/
  factories : Table (String → α) := .empty
  /-- What makes the thing for every other type. -/
  default : Option (String → α) := none
  /-- The things made so far, in the order in which they were made. -/
  made : Table α := .empty

namespace Registry

variable {α : Type}

/-- Register a type, in place of an earlier registration of it. -/
def register (registry : Registry α) (type : String) (factory : String → α) : Registry α :=
  { registry with factories := registry.factories.insert type factory }

/-- Register the default, in place of an earlier one. -/
def registerDefault (registry : Registry α) (factory : String → α) : Registry α :=
  { registry with default := some factory }

/-- Whether there is a registration for a type or a default. -/
def handles (registry : Registry α) (type : String) : Bool :=
  registry.factories.contains type || registry.default.isSome

/-- What serves a type: the thing made before, or else a new one. -/
def find? (registry : Registry α) (type : String) : Option α :=
  registry.made.get? type
    <|> ((registry.factories.get? type <|> registry.default).map fun factory => factory type)

/-- What serves a type, or the error that nothing does. -/
def get (registry : Registry α) (type : String) : Except StackError α :=
  match registry.find? type with
  | some thing => .ok thing
  | none => .error (.providerNotFound type)

/-- The registry after a type has been asked for. -/
def remember (registry : Registry α) (type : String) : Registry α :=
  match registry.made.get? type, registry.find? type with
  | none, some thing => { registry with made := registry.made.insert type thing }
  | _, _ => registry

/-- A registry in diagnostics. -/
def text (registry : Registry α) : String :=
  let types := registry.factories.names.mergeSort fun a b => decide (a ≤ b)
  "ProviderRegistry \x7b types: [" ++ String.intercalate ", " (types.map Text.shown)
    ++ "], has_default: " ++ boolText registry.default.isSome
    ++ ", cached: " ++ toString registry.made.size ++ " \x7d"

end Registry

end Reconcile
