import Reconcile.Backoff
import Reconcile.Run.Basic

/-!
# Steps of a run

What happens next to a task.  Steps of different tasks may happen in any order; what a run
does is any sequence of steps in which time passes only when it has to.
-/

namespace Reconcile

namespace Setting

variable {σ : Type} (setting : Setting σ)

/-- Begin to call the provider of a request. -/
def call (now : Nat) (request : Request) (attempt since : Nat) : Progress :=
  match setting.providers.get request.type with
  | .error error => .finished (.error error)
  | .ok provider => .calling request attempt since (now + provider.duration request)

/-- The recorded resources that have to be deleted before a given one. -/
def dependents (run : Run σ) (logicalId : String) : List String :=
  (setting.previous.graph.dependents logicalId).filter run.doomed.contains

/-- What is to become of a recorded resource that is recorded no longer. -/
def deletionPolicy (logicalId : String) : DeletionPolicy :=
  ((setting.previous.template.resources.get? logicalId).map Resource.deletionPolicy).getD .delete

/-- Begin a task. -/
def begin (run : Run σ) : Goal → Progress
  | .update logicalId =>
    match setting.desired.resources.get? logicalId with
    | none => .finished (.error (.templateParse ("resource '" ++ logicalId ++ "' is not declared")))
    | some resource =>
      match setting.inputs.conditions.isActive resource.condition with
      | .error error => .finished (.error (.resolution logicalId error))
      | .ok false => .finished (.ok .excluded)
      | .ok true => .waiting resource.dependsOn []
  | .delete logicalId =>
    if setting.previous.resources.contains logicalId then
      match setting.deletionPolicy logicalId with
      | .retain => .finished (.ok .retained)
      | .snapshot => .finished (.error (.unsupportedDeletionPolicy logicalId .snapshot))
      | .delete => .waiting (setting.dependents run logicalId) []
    else .finished (.ok .absent)

/-- A resource with the properties that were applied to it. -/
def applied (logicalId : String) (properties : Json) (resource : PhysicalResource) : PhysicalResource :=
  { resource with
    inputProperties := properties
    propertiesHash :=
      some (fingerprint ((setting.desired.resources.get? logicalId).bind Resource.properties)) }

/-- Apply the desired properties of a resource: make it, change it, or leave it as it is. -/
def apply (run : Run σ) (logicalId : String) (resource : Resource) (resolution : Resolution) :
    Except EvaluationError Progress := do
  let properties ← resolution.realize
  let previous := setting.previous.resources.get? logicalId
  let decision ← Decision.ofResolution previous (fingerprint resource.properties) resolution
  return match decision.operation, previous with
    | .skip, some previous => .finished (.ok (.applied (setting.applied logicalId properties previous) .skip))
    | .create, _ | _, none =>
      setting.call run.now (.create logicalId resource.type properties) 1 run.now
    | _, some previous =>
      setting.call run.now (.update logicalId resource.type properties previous) 1 run.now

/-- Evaluate the properties of a resource, and wait for the resources that they need; when there are
none that were not waited for, apply them. -/
def evaluate (run : Run σ) (logicalId : String) (resource : Resource) (awaited : List String) :
    Except EvaluationError Progress := do
  let resolution ← setting.desired.evaluate (run.capabilities setting) resource.desiredProperties
  match resolution.unresolvedResources.filter fun id => !awaited.contains id with
  | [] => setting.apply run logicalId resource resolution
  | pending => return .waiting pending (awaited ++ pending)

/-- Go on with a task that has waited for all it had to wait for. -/
def proceed (run : Run σ) (awaited : List String) : Goal → Progress
  | .update logicalId =>
    match setting.desired.resources.get? logicalId with
    | none => .finished (.error (.templateParse ("resource '" ++ logicalId ++ "' is not declared")))
    | some resource =>
      match setting.evaluate run logicalId resource awaited with
      | .error error => .finished (.error (.resolution logicalId error))
      | .ok progress => progress
  | .delete logicalId =>
    match setting.previous.resources.get? logicalId with
    | none => .finished (.ok .absent)
    | some previous => setting.call run.now (.delete logicalId previous.type previous) 1 run.now

/-- The outcome of a request that succeeded. -/
def outcome (reply : Reply) : Request → Outcome
  | .create logicalId _ properties => .applied (setting.applied logicalId properties reply.resource) .create
  | .update logicalId _ properties _ => .applied (setting.applied logicalId properties reply.resource) .update
  | .delete _ _ _ => .deleted

/-- The delay after a failed attempt, if there may be another one. -/
def delay? (provider : Provider σ) (request : Request) (attempt : Nat) : Option Nat :=
  if provider.retryPolicy.allows request.kind then setting.config.retry.delay? (attempt - 1) else none

end Setting

/-- The failure of a task because of the task of another logical id. -/
def Goal.blockedBy : Goal → String → StackError
  | .update logicalId, other => .dependencyFailed logicalId other
  | .delete logicalId, other => .dependentNotDeleted logicalId other

namespace Run

variable {σ : Type} (setting : Setting σ)

/-- Enter how far a task has come: tasks that it waits for are asked for, and a call is noted. -/
def enter (run : Run σ) (goal : Goal) (progress : Progress) : Run σ :=
  let run := (progress.waitsOn.map goal.withId).foldl request (run.set goal progress)
  match progress with
  | .calling request _ _ _ => { run with calls := run.calls ++ [⟨run.now, request⟩] }
  | _ => run

/-- The first of some tasks that failed. -/
def firstFailed? (run : Run σ) (goal : Goal) (on : List String) : Option String :=
  on.find? fun id =>
    match run.result? (goal.withId id) with
    | some (.error _) => true
    | _ => false

/-- Take the answer of a provider. -/
def answered (run : Run σ) (goal : Goal) (request : Request) (attempt since : Nat) : Run σ :=
  match setting.providers.get request.type with
  | .error error => run.enter goal (.finished (.error error))
  | .ok provider =>
    let (answer, world) := provider.answer request run.world
    let run := { run with world, exchanges := run.exchanges ++ [Exchange.mk request answer] }
    match answer with
    | .ok reply =>
      { run.enter goal (.finished (.ok (setting.outcome reply request))) with
        metrics := run.metrics.record request.type attempt (run.now - since) true
        padding :=
          match reply.padding with
          | some padding => run.padding.register run.now padding
          | none => run.padding }
    | .error messages =>
      match setting.delay? provider request attempt with
      | some delay => run.enter goal (.resting request attempt since (run.now + delay))
      | none =>
        let error :=
          .providerFailed request.logicalId request.kind attempt (String.intercalate ": " messages)
        { run.enter goal (.finished (.error error)) with
          metrics := run.metrics.record request.type attempt (run.now - since) false }

/-- The next step of the task of a goal, if there is one at this time. -/
def step? (run : Run σ) (goal : Goal) : Option (Run σ) :=
  match run.progress? goal with
  | none | some (.finished _) => none
  | some .ready => some (run.enter goal (setting.begin run goal))
  | some (.waiting on awaited) =>
    if on.all fun id => (run.result? (goal.withId id)).isSome then
      match run.firstFailed? goal on with
      | some id => some (run.enter goal (.finished (.error (goal.blockedBy id))))
      | none => some (run.enter goal (setting.proceed run awaited goal))
    else none
  | some (.calling request attempt since due) =>
    if due ≤ run.now then some (run.answered setting goal request attempt since) else none
  | some (.resting request attempt since due) =>
    if due ≤ run.now then some (run.enter goal (setting.call run.now request (attempt + 1) since)) else none

/-- The least time before which nothing happens to a task. -/
def earliest? (run : Run σ) : Option Nat :=
  ((run.updates.values ++ run.deletions.values).filterMap Progress.due?).min?

end Run

end Reconcile
