import Reconcile.Provider.InMemory

/-!
# Rehearsals

A provider for rehearsing the changes of a stack: it works in memory, takes the time it is
told to take, fails where it is told to fail, and exposes additional attributes.
-/

namespace Reconcile

/-- A failure that is to happen. -/
structure Fault where
  kind : CallKind
  logicalId : String
  /-- How often it is to happen; always, if there is no number. -/
  times : Option Nat := none
  /-- The messages of the failure, the outermost first. -/
  messages : List String := ["scripted failure"]
  deriving DecidableEq, Repr, Inhabited

/-- Use up a fault for a call: its messages and the faults left, if there is one for the call. -/
def Fault.take (kind : CallKind) (logicalId : String) : List Fault → Option (List String × List Fault)
  | [] => none
  | fault :: rest =>
    if fault.kind = kind ∧ fault.logicalId = logicalId ∧ fault.times ≠ some 0 then
      some (fault.messages, { fault with times := fault.times.map (· - 1) } :: rest)
    else (Fault.take kind logicalId rest).map fun (messages, rest) => (messages, fault :: rest)

/-- The world of a rehearsal: what is in memory, and the faults still to happen. -/
structure Stage where
  memory : Memory := {}
  faults : List Fault := []
  deriving Inhabited

/-- The settings of a provider of a rehearsal. -/
structure Rehearsal where
  inMemory : InMemory
  /-- The time that a call takes, in milliseconds. -/
  duration : Nat := 10
  /-- The time that a call takes for some logical ids. -/
  durations : Table Nat := .empty
  /-- The additional attributes by logical id. -/
  attributes : Table (Table Json) := .empty

namespace Rehearsal

variable (settings : Rehearsal)

/-- A resource with the additional attributes of its logical id. -/
def decorate (logicalId : String) (resource : PhysicalResource) : PhysicalResource :=
  let extra := ((settings.attributes.get? logicalId).map Table.entries).getD []
  { resource with
    attributes := extra.foldl (fun attributes (name, value) => attributes.insert name value) resource.attributes }

/-- The answer to a request and the world after it. -/
def answer (request : Request) (stage : Stage) : Answer × Stage :=
  match Fault.take request.kind request.logicalId stage.faults with
  | some (messages, faults) => (.error messages, { stage with faults })
  | none =>
    let (answer, memory) := settings.inMemory.answer request stage.memory
    let answer :=
      answer.map fun reply => { reply with resource := settings.decorate request.logicalId reply.resource }
    (answer, { stage with memory })

/-- The provider with these settings. -/
def provider : Provider Stage where
  retryPolicy := settings.inMemory.retryPolicy
  refAttribute := fun _ => settings.inMemory.refAttribute
  duration := fun request => (settings.durations.get? request.logicalId).getD settings.duration
  answer := settings.answer

end Rehearsal

end Reconcile
