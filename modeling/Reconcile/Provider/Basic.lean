import Reconcile.Provider.Registry
import Reconcile.State.Basic

/-!
# Providers

A provider makes, changes and removes the physical counterparts of resources.  What it does
depends on the state of the world and changes it; `σ` is the type of those states.
-/

namespace Reconcile

/-- The calls that may be repeated after a failure. -/
inductive RetryPolicy where
  | never
  | always
  | only (kinds : List CallKind)
  deriving DecidableEq, Repr, Inhabited

/-- Whether a failed call of a kind may be repeated. -/
def RetryPolicy.allows : RetryPolicy → CallKind → Bool
  | .never, _ => false
  | .always, _ => true
  | .only kinds, kind => kinds.contains kind

/-- What a provider is asked to do. -/
inductive Request where
  | create (logicalId type : String) (properties : Json)
  | update (logicalId type : String) (properties : Json) (previous : PhysicalResource)
  | delete (logicalId type : String) (previous : PhysicalResource)
  deriving Inhabited

namespace Request

/-- The kind of call that makes a request. -/
def kind : Request → CallKind
  | .create _ _ _ => .create
  | .update _ _ _ _ => .update
  | .delete _ _ _ => .delete

/-- The logical id of the resource that a request is about. -/
def logicalId : Request → String
  | .create logicalId _ _ | .update logicalId _ _ _ | .delete logicalId _ _ => logicalId

/-- The type of the resource that a request is about. -/
def type : Request → String
  | .create _ type _ | .update _ type _ _ | .delete _ type _ => type

end Request

/-- The answer to a successful request. -/
structure Reply where
  /-- The resource that was made or changed; after a deletion it means nothing. -/
  resource : PhysicalResource := default
  /-- The least time in milliseconds that has to pass before the run may end. -/
  padding : Option Nat := none
  deriving Inhabited

/-- The answer to a request; a failure is a chain of messages, the outermost first. -/
abbrev Answer := Except (List String) Reply

/-- A provider in worlds of type `σ`. -/
structure Provider (σ : Type) where
  /-- The calls that may be repeated. -/
  retryPolicy : RetryPolicy := .never
  /-- The attribute that a reference to a resource of a type has as its value, if not the physical id. -/
  refAttribute : String → Option String := fun _ => none
  /-- The time in milliseconds that a request takes. -/
  duration : Request → Nat := fun _ => 0
  /-- The answer to a request and the world after it. -/
  answer : Request → σ → Answer × σ

/-- The providers by type of resource. -/
abbrev Providers (σ : Type) := Registry (Provider σ)

/-- The attribute that a reference to a resource of a type has as its value. -/
def Registry.refAttribute {σ : Type} (providers : Providers σ) (type : String) : Option String :=
  (providers.find? type).bind fun provider => provider.refAttribute type

end Reconcile
