import Reconcile.Expression.Fingerprint
import Reconcile.Inputs.Validation
import Reconcile.Operation
import Reconcile.Plan.Basic
import Reconcile.Provider.Basic
import Reconcile.Run.Metrics

/-!
# Runs

A run brings the resources of a stack to their desired state, or deletes them.  It has a task
for every resource that was asked for, by its caller or by another task that waits for it.
A task is begun once; it waits for other tasks, calls a provider, rests between repeated calls,
and finishes.  Time passes only while nothing else can happen.
-/

namespace Reconcile

/-- What a task is to achieve. -/
inductive Goal where
  /-- That a declared resource is up to date. -/
  | update (logicalId : String)
  /-- That a recorded resource is gone. -/
  | delete (logicalId : String)
  deriving DecidableEq, Repr, Inhabited

namespace Goal

/-- The logical id that a goal is about. -/
def logicalId : Goal → String
  | .update logicalId | .delete logicalId => logicalId

/-- The same goal for another logical id. -/
def withId : Goal → String → Goal
  | .update _, logicalId => .update logicalId
  | .delete _, logicalId => .delete logicalId

end Goal

/-- What became of a resource. -/
inductive Outcome where
  /-- It exists like this, after an operation. -/
  | applied (resource : PhysicalResource) (operation : Operation)
  /-- Its condition is false, and nothing was done. -/
  | excluded
  | deleted
  /-- It was left in place, but is no longer recorded. -/
  | retained
  /-- It was not recorded. -/
  | absent
  deriving Inhabited

/-- How far a task has come. -/
inductive Progress where
  /-- It was asked for. -/
  | ready
  /-- It waits for the tasks of some logical ids; `awaited` are those found by evaluation that it has
  waited for, these included. -/
  | waiting (on awaited : List String)
  /-- A provider is called, with the number of the attempt, the time of the first one and the time at
  which it will answer. -/
  | calling (request : Request) (attempt since due : Nat)
  /-- The next attempt is put off until a time. -/
  | resting (request : Request) (attempt since due : Nat)
  | finished (result : Except StackError Outcome)
  deriving Inhabited

namespace Progress

/-- The result of a finished task. -/
def result? : Progress → Option (Except StackError Outcome)
  | .finished result => some result
  | _ => none

/-- The logical ids that a task waits for. -/
def waitsOn : Progress → List String
  | .waiting on _ => on
  | _ => []

/-- The time before which nothing happens to a task. -/
def due? : Progress → Option Nat
  | .calling _ _ _ due | .resting _ _ _ due => some due
  | _ => none

end Progress

/-- A call of a provider and the time of its beginning. -/
structure Call where
  start : Nat
  request : Request
  deriving Inhabited

/-- A call of a provider that was answered. -/
structure Exchange where
  request : Request
  answer : Answer
  deriving Inhabited

/-- What a run starts from and aims at. -/
structure Setting (σ : Type) where
  previous : StackState
  desired : Template
  inputs : Inputs
  config : Config
  providers : Providers σ

/-- The dependency graph of the recorded template; when it has none, the recorded resources without
dependencies. -/
def StackState.graph (state : StackState) : Graph :=
  match state.template.graph with
  | .ok graph => graph
  | .error _ => .ofNodes state.resources.names

/-- A run so far. -/
structure Run (σ : Type) where
  world : σ
  /-- The time in milliseconds. -/
  now : Nat := 0
  /-- The tasks that bring resources up to date. -/
  updates : Table Progress := .empty
  /-- The tasks that delete resources. -/
  deletions : Table Progress := .empty
  /-- The recorded resources that may be deleted. -/
  doomed : List String := []
  /-- All calls of providers, in order. -/
  calls : List Call := []
  /-- All answers of providers, in order. -/
  exchanges : List Exchange := []
  metrics : Metrics := .empty
  padding : Padding := none

namespace Run

variable {σ : Type}

/-- How far the task of a goal has come. -/
def progress? (run : Run σ) : Goal → Option Progress
  | .update logicalId => run.updates.get? logicalId
  | .delete logicalId => run.deletions.get? logicalId

/-- Enter how far the task of a goal has come. -/
def set (run : Run σ) (goal : Goal) (progress : Progress) : Run σ :=
  match goal with
  | .update logicalId => { run with updates := run.updates.insert logicalId progress }
  | .delete logicalId => { run with deletions := run.deletions.insert logicalId progress }

/-- The goals of all tasks. -/
def goals (run : Run σ) : List Goal := run.updates.names.map .update ++ run.deletions.names.map .delete

/-- The result of the task of a goal. -/
def result? (run : Run σ) (goal : Goal) : Option (Except StackError Outcome) :=
  (run.progress? goal).bind Progress.result?

/-- Whether all tasks have finished. -/
def isOver (run : Run σ) : Bool := run.goals.all fun goal => (run.result? goal).isSome

/-- Ask for a task, unless it is there. -/
def request (run : Run σ) (goal : Goal) : Run σ :=
  match run.progress? goal with
  | some _ => run
  | none => run.set goal .ready

/-- The resource of a logical id as it was left by this run. -/
def completed? (run : Run σ) (logicalId : String) : Option PhysicalResource :=
  match run.result? (.update logicalId) with
  | some (.ok (.applied resource _)) => some resource
  | _ => none

/-- What became of a recorded resource that is recorded no longer. -/
def removal? (run : Run σ) (logicalId : String) : Option Outcome :=
  match run.result? (.delete logicalId) with
  | some (.ok .deleted) => some .deleted
  | some (.ok .retained) => some .retained
  | _ => none

/-- The failures of some goals, in order. -/
def failures (run : Run σ) (goals : List Goal) : List (String × StackError) :=
  goals.filterMap fun goal =>
    match run.result? goal with
    | some (.error error) => some (goal.logicalId, error)
    | _ => none

/-- What is known of resources: those that were completed are available. -/
def view (setting : Setting σ) (run : Run σ) : ResourceView where
  availability logicalId :=
    match run.completed? logicalId with
    | some resource => .available resource
    | none =>
      if setting.desired.isExcluded setting.inputs.conditions logicalId then .excluded else .pending
  refAttribute := setting.providers.refAttribute

/-- What an evaluation may ask for. -/
def capabilities (setting : Setting σ) (run : Run σ) : Capabilities :=
  { setting.inputs.capabilities setting.config with resources := some (run.view setting) }

end Run

end Reconcile
