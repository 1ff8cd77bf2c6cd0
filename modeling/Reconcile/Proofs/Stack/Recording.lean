import Mathlib.Tactic.Common
import Reconcile.Proofs.Outcome
import Reconcile.Proofs.Stack.Completion
import Reconcile.Proofs.Table

/-!
# Recorded states

An update that succeeds records the declared resources that take part and nothing else.  What it
records of a resource belongs to the properties that it has in the template, evaluated with the
recorded resources, although it was applied when some of these did not exist yet.  The outputs
are evaluated with the recorded resources too.
-/

namespace Reconcile

variable {σ : Type}

/-! ### What a state says -/

/-- A condition is absent or true. -/
def ConditionValues.holds (values : ConditionValues) (condition : Option String) : Bool :=
  condition.all fun name => values.get? name == some true

theorem ConditionValues.isActive_eq_true {values : ConditionValues} {condition : Option String} :
  values.isActive condition = .ok true ↔ values.holds condition
  := by
  cases condition with
  | none => simp [isActive, holds]
  | some name => cases hv : values.get? name <;> simp [isActive, value, holds, hv]

namespace StackState

variable (state : StackState)

/-- The recorded resources are available. -/
def view (providers : Providers σ) : ResourceView where
  availability id :=
    match state.resources.get? id with
    | some physical => .available physical
    | none => .pending
  refAttribute := providers.refAttribute

/-- What an evaluation may ask for when references are answered from a state. -/
def capabilities (stack : Stack σ) (inputs : Inputs) : Capabilities :=
  { inputs.capabilities stack.config with resources := some (state.view stack.providers) }

/-- An expression has a value when references are answered from a state. -/
def Gives (stack : Stack σ) (template : Template) (inputs : Inputs) (expression : Expression) (value : Json) : Prop :=
  ∃ resolution, template.evaluate (state.capabilities stack inputs) expression = .ok resolution
    ∧ resolution.realize = .ok value

/-- A state records what a template describes. -/
structure Reflects (stack : Stack σ) (template : Template) (inputs : Inputs) : Prop where
  /-- The recorded resources are the declared ones whose condition is absent or true, in order. -/
  resources : state.resources.names
    = (template.resources.entries.filter fun entry => inputs.conditions.holds entry.2.condition).map (·.1)
  /-- Each has the properties, and the fingerprint of the properties, that the template gives it. -/
  properties : ∀ id physical, state.resources.get? id = some physical →
    ∃ resource, template.resources.get? id = some resource
      ∧ physical.propertiesHash = some (fingerprint resource.properties)
      ∧ state.Gives stack template inputs resource.desiredProperties physical.inputProperties
  /-- The recorded outputs are those whose condition is absent or true, in order. -/
  outputs : state.outputs.names
    = (template.outputs.entries.filter fun entry => inputs.conditions.holds entry.2.condition).map (·.1)
  /-- Each has the value that the template gives it. -/
  values : ∀ name value, state.outputs.get? name = some value →
    ∃ output, template.outputs.get? name = some output ∧ state.Gives stack template inputs output.value value

end StackState

/-! ### Removed resources -/

/-- The declared resources whose condition is false are excluded. -/
theorem Stack.mem_excluded {template : Template} {inputs : Inputs} {id : String} :
  id ∈ excluded template inputs
    ↔ ∃ resource, template.resources.get? id = some resource
        ∧ inputs.conditions.isActive resource.condition = .ok false
  := by
  unfold excluded
  rw [List.mem_map]
  constructor
  · rintro ⟨⟨_, resource⟩, hm, rfl⟩
    obtain ⟨listed, inactive⟩ := List.mem_filter.mp hm
    refine ⟨resource, (Table.get?_eq_some_iff _ _ _).mpr listed, ?_⟩
    cases active : inputs.conditions.isActive resource.condition with
    | error error => simp [active] at inactive
    | ok active => simpa [active] using inactive
  · rintro ⟨resource, declared, inactive⟩
    refine ⟨(id, resource), List.mem_filter.mpr ⟨(Table.get?_eq_some_iff _ _ _).mp declared, ?_⟩, rfl⟩
    simp [inactive]

/-! ### What is recorded -/

namespace Run

variable {setting : Setting σ} {run : Run σ} {id : String} {physical : PhysicalResource}

theorem mem_recordedResources :
  (id, physical) ∈ run.recordedResources setting
    ↔ setting.desired.isResource id ∧ run.recordedResource? setting id = some physical
  := by
  unfold recordedResources
  rw [List.mem_filterMap, Template.isResource, Table.contains_iff]
  constructor
  · rintro ⟨other, declared, he⟩
    obtain ⟨physical', recorded, ⟨⟩⟩ := Option.map_eq_some_iff.mp he
    exact ⟨declared, recorded⟩
  · rintro ⟨declared, recorded⟩
    exact ⟨id, declared, by rw [recorded]; rfl⟩

theorem mem_leftovers :
  (id, physical) ∈ run.leftovers setting
    ↔ setting.previous.resources.get? id = some physical
        ∧ ¬ setting.desired.isResource id ∧ run.removal? id = none
  := by
  unfold leftovers
  rw [List.mem_filter, Table.get?_eq_some_iff]
  simp

theorem nodup_recorded (setting : Setting σ) (run : Run σ) :
  ((run.recordedResources setting ++ run.leftovers setting).map (·.1)).Nodup
  := by
  rw [List.map_append, List.nodup_append]
  refine ⟨?_, ?_, ?_⟩
  · unfold recordedResources Table.names
    rw [List.filterMap_map]
    exact setting.desired.resources.nodup_filterMap fun entry => run.recordedResource? setting entry.1
  · apply setting.previous.resources.nodup.sublist (List.filter_sublist.map _)
  · rintro id recorded _ left rfl
    obtain ⟨⟨_, physical⟩, hr, rfl⟩ := List.mem_map.mp recorded
    obtain ⟨⟨_, physical'⟩, hl, he⟩ := List.mem_map.mp left
    obtain rfl : _ = _ := he
    exact (mem_leftovers.mp hl).2.1 (mem_recordedResources.mp hr).1

/-- What is recorded: of a declared resource what the run left, or what was recorded before, and any other
recorded resource that was not removed. -/
theorem get?_recordedState :
  (run.recordedState setting).resources.get? id = some physical
    ↔ (setting.desired.isResource id ∧ run.recordedResource? setting id = some physical)
      ∨ setting.previous.resources.get? id = some physical
          ∧ ¬ setting.desired.isResource id ∧ run.removal? id = none
  := by
  unfold recordedState
  rw [Table.get?_eq_some_iff, Table.entries_ofList (nodup_recorded setting run), List.mem_append,
    mem_recordedResources, mem_leftovers]

/-- A declared resource that has been applied is recorded. -/
theorem get?_recordedState_of_completed (declared : setting.desired.isResource id)
    (completed : run.completed? id = some physical) :
  (run.recordedState setting).resources.get? id = some physical
  := by
  apply get?_recordedState.mpr
  left
  use declared
  rw [recordedResource?, completed]

end Run

/-- An update has come to its end without failures. -/
structure Setting.Succeeds (setting : Setting σ) (world : σ) (middle last : Run σ) : Prop where
  completes : setting.Completes world middle last
  unfailed : Stack.updateFailures setting last setting.removals = []

namespace Setting.Succeeds

variable {setting : Setting σ} {world : σ} {middle last : Run σ} (succeeds : setting.Succeeds world middle last)
  {id : String} {resource : Resource}

include succeeds

/-- Declared resources end well. -/
theorem endsWell (declared : setting.desired.resources.get? id = some resource) :
  middle.EndsWell id ∧ last.EndsWell id
  := by
  obtain ⟨result, middleFinished, finished⟩ := succeeds.completes.exists_result declared
  obtain ⟨updated, -, -⟩ := Stack.updateFailures_eq_nil.mp succeeds.unfailed
  cases result with
  | error error =>
    have mem : id ∈ setting.desired.resources.names := (Table.exists_get?_iff _ _).mp ⟨resource, declared⟩
    exact absurd finished (Run.failures_eq_nil.mp updated _ (List.mem_map_of_mem mem) error)
  | ok outcome => exact ⟨⟨outcome, middleFinished⟩, outcome, finished⟩

/-- A declared resource has been applied if its condition is absent or true, and is excluded otherwise. -/
theorem applied_or_excluded (declared : setting.desired.resources.get? id = some resource) :
  (setting.inputs.conditions.holds resource.condition ∧ ∃ physical, last.completed? id = some physical)
    ∨ setting.inputs.conditions.isActive resource.condition = .ok false ∧ last.completed? id = none
  := by
  obtain ⟨outcome, finished⟩ := (succeeds.endsWell declared).2
  obtain ⟨active, completed⟩ | excluded := succeeds.completes.sound.2.1.completed_or_excluded declared finished
  · exact .inl ⟨ConditionValues.isActive_eq_true.mp active, completed⟩
  · exact .inr excluded

/-- The recorded resources that have to go have been dealt with. -/
theorem removes :
  (∃ count, Run.Leads setting (middle.removing setting.removals) count last) ∧ last.isOver
  := by
  apply succeeds.completes.removes
  by_contra failed
  have updated := (Stack.updateFailures_eq_nil.mp succeeds.unfailed).1
  rw [← succeeds.completes.stops failed] at failed
  exact failed updated

/-- The recorded resources that have to go are gone. -/
theorem removed (doomed : setting.previous.isDoomed setting.desired
    (Stack.excluded setting.desired setting.inputs) id) :
  (last.removal? id).isSome
  := by
  obtain ⟨-, removed, -⟩ := Stack.updateFailures_eq_nil.mp succeeds.unfailed
  have mem : id ∈ setting.removals := StackState.mem_deletionOrder.mpr doomed
  obtain ⟨⟨count, leads⟩, ended⟩ := succeeds.removes
  obtain ⟨result, finished⟩ :=
    Run.exists_result_of_isOver ended (leads.exists_progress (middle.exists_progress_removing mem))
  cases result with
  | error error => exact absurd finished (Run.failures_eq_nil.mp removed _ (List.mem_map_of_mem mem) error)
  | ok outcome =>
    have removes := succeeds.completes.sound.2.1.deletions id _ (Run.result?_eq_some.mp finished)
    obtain rfl | rfl | ⟨rfl, unrecorded⟩ := removes
    · simp [Run.removal?, finished]
    · simp [Run.removal?, finished]
    · unfold StackState.isDoomed at doomed
      simp [Table.contains, unrecorded] at doomed

theorem leftovers_eq_nil :
  last.leftovers setting = []
  := by
  unfold Run.leftovers
  rw [List.filter_eq_nil_iff]
  rintro ⟨id, physical⟩ recorded kept
  simp only [Bool.and_eq_true, Bool.not_eq_eq_eq_not, Bool.not_true] at kept
  have doomed : setting.previous.isDoomed setting.desired (Stack.excluded setting.desired setting.inputs) id := by
    have found := (Table.get?_eq_some_iff setting.previous.resources id physical).mpr recorded
    simp [StackState.isDoomed, Table.contains, found, kept.1]
  have removed := succeeds.removed doomed
  rw [Option.isNone_iff_eq_none.mp kept.2] at removed
  cases removed

/-- What is recorded of a declared resource is what was applied. -/
theorem recordedResource?_eq (declared : setting.desired.resources.get? id = some resource) :
  last.recordedResource? setting id = last.completed? id
  := by
  unfold Run.recordedResource?
  obtain ⟨-, physical, completed⟩ | ⟨inactive, incomplete⟩ := succeeds.applied_or_excluded declared
  · rw [completed]
  · rw [incomplete]
    dsimp only
    split
    · rfl
    · next kept =>
      -- An excluded resource that had been recorded would have been removed.
      by_contra recorded
      have excluded := Stack.mem_excluded.mpr ⟨resource, declared, inactive⟩
      apply kept
      apply succeeds.removed
      simp [StackState.isDoomed, Table.contains, Option.isSome_iff_ne_none.mpr recorded, excluded]

theorem resources_eq :
  (last.recordedState setting).resources
    = .ofList (setting.desired.resources.entries.filterMap fun entry =>
        (last.recordedResource? setting entry.1).map (entry.1, ·))
  := by
  unfold Run.recordedState Run.recordedResources Table.names
  rw [succeeds.leftovers_eq_nil, List.append_nil, List.filterMap_map]
  rfl

/-- The recorded resources are those that were applied. -/
theorem get?_resources {physical : PhysicalResource} :
  (last.recordedState setting).resources.get? id = some physical ↔ last.completed? id = some physical
  := by
  rw [succeeds.resources_eq, Table.get?_filterMap]
  constructor
  · rintro ⟨resource, declared, recorded⟩
    rwa [succeeds.recordedResource?_eq declared] at recorded
  · intro completed
    obtain ⟨operation, finished⟩ := Run.completed?_eq_some.mp completed
    obtain ⟨resource, declared, -⟩ := (succeeds.completes.sound.2.1.accounted finished).cases_of_ok
    exact ⟨resource, declared, (succeeds.recordedResource?_eq declared).trans completed⟩

theorem names_resources :
  (last.recordedState setting).resources.names
    = (setting.desired.resources.entries.filter fun entry =>
        setting.inputs.conditions.holds entry.2.condition).map (·.1)
  := by
  rw [succeeds.resources_eq, Table.names, Table.entries_ofList (Table.nodup_filterMap _ _), map_filterMap_fst]
  congr 1
  apply List.filter_congr
  rintro ⟨id, resource⟩ hm
  have declared := (Table.get?_eq_some_iff _ _ _).mpr hm
  rw [Bool.eq_iff_iff, succeeds.recordedResource?_eq declared]
  obtain ⟨holds, physical, completed⟩ | ⟨inactive, incomplete⟩ := succeeds.applied_or_excluded declared
  · simp [holds, completed]
  · rw [← ConditionValues.isActive_eq_true, inactive, incomplete]
    simp

end Setting.Succeeds

/-! ### Values in the recorded state -/

namespace Run

variable {setting : Setting σ} {run : Run σ}

/-- An output has a value just when its condition is absent or true. -/
theorem output_eq_ok {output : Output} {result : Option Json} (h : run.output setting output = .ok result) :
  (setting.inputs.conditions.holds output.condition ∧ ∃ resolution value,
      setting.desired.evaluate (run.capabilities setting) output.value = .ok resolution
        ∧ resolution.realize = .ok value ∧ result = some value)
    ∨ ¬ setting.inputs.conditions.holds output.condition ∧ result = none
  := by
  obtain ⟨active, ha, h⟩ := Except.bind_eq_ok.mp h
  cases active with
  | true =>
    obtain ⟨resolution, evaluated, h⟩ := Except.bind_eq_ok.mp h
    obtain ⟨value, realized, ⟨⟩⟩ := Except.bind_eq_ok.mp h
    exact .inl ⟨ConditionValues.isActive_eq_true.mp ha, resolution, value, evaluated, realized, rfl⟩
  | false =>
    cases h
    right
    rw [← ConditionValues.isActive_eq_true, ha]
    exact ⟨nofun, rfl⟩

/-- The value of an output that has one. -/
def outputValue? (setting : Setting σ) (run : Run σ) (output : Output) : Option Json :=
  match run.output setting output with
  | .ok result => result
  | .error _ => none

theorem outputs_eq (setting : Setting σ) (run : Run σ) :
  run.outputs setting
    = .ofList (setting.desired.outputs.entries.filterMap fun entry =>
        (run.outputValue? setting entry.2).map (entry.1, ·))
  := by
  unfold outputs outputValue?
  congr 2
  funext entry
  match run.output setting entry.2 with
  | .ok (some value) => rfl
  | .ok none => rfl
  | .error error => rfl

/-- Without failures every output was evaluated. -/
theorem exists_output (unfailed : run.outputFailures setting = []) {name : String} {output : Output}
    (declared : setting.desired.outputs.get? name = some output) :
  ∃ result, run.output setting output = .ok result
  := by
  have none := List.filterMap_eq_nil_iff.mp unfailed (name, output)
    ((Table.get?_eq_some_iff _ _ _).mp declared)
  apply Except.exists_eq_ok
  intro error failed
  simp [failed] at none

theorem names_outputs (unfailed : run.outputFailures setting = []) :
  (run.outputs setting).names
    = (setting.desired.outputs.entries.filter fun entry =>
        setting.inputs.conditions.holds entry.2.condition).map (·.1)
  := by
  rw [outputs_eq, Table.names, Table.entries_ofList (Table.nodup_filterMap _ _), map_filterMap_fst]
  congr 1
  apply List.filter_congr
  rintro ⟨name, output⟩ hm
  obtain ⟨result, hr⟩ := exists_output unfailed ((Table.get?_eq_some_iff _ _ _).mpr hm)
  rw [Bool.eq_iff_iff, outputValue?, hr]
  obtain ⟨holds, -, value, -, -, rfl⟩ | ⟨inactive, rfl⟩ := output_eq_ok hr
  · simpa using holds
  · simpa using inactive

theorem value_of_outputs (unfailed : run.outputFailures setting = []) {name : String} {value : Json}
    (h : (run.outputs setting).get? name = some value) :
  ∃ output, setting.desired.outputs.get? name = some output ∧ ∃ resolution,
    setting.desired.evaluate (run.capabilities setting) output.value = .ok resolution
      ∧ resolution.realize = .ok value
  := by
  rw [outputs_eq, Table.get?_filterMap] at h
  obtain ⟨output, declared, hv⟩ := h
  use output, declared
  obtain ⟨result, hr⟩ := exists_output unfailed declared
  rw [outputValue?, hr] at hv
  obtain rfl : result = some value := hv
  obtain ⟨-, resolution, _, evaluated, realized, ⟨⟩⟩ | ⟨-, ⟨⟩⟩ := output_eq_ok hr
  exact ⟨resolution, evaluated, realized⟩

end Run

namespace Stack

variable {stack : Stack σ} {template : Template} {inputs : Inputs} {world : σ} {middle last : Run σ}

/-- What a run has found out with the resources that were applied stays so with the recorded ones. -/
theorem evaluate_of_recorded {state : StackState} {expression : Expression} {resolution : Resolution}
    (recorded : ∀ id physical, last.completed? id = some physical → state.resources.get? id = some physical)
    (evaluated : template.evaluate (last.capabilities (stack.updateSetting template inputs)) expression
      = .ok resolution)
    (resolved : resolution.unresolved = []) :
  template.evaluate (state.capabilities stack inputs) expression = .ok resolution
  := by
  apply template.evaluate_of_agree evaluated
  intro d hd
  rw [resolved] at hd
  obtain ⟨finding, found⟩ := (template.find_of_evaluate evaluated).1 d (hd.resolve_right nofun)
  cases d with
  | resource id =>
    obtain ⟨physical, completed⟩ := Run.completed_of_find found
    have answer : (state.capabilities stack inputs).find (.resource id) = .ok (some (.resource physical)) := by
      simp only [Capabilities.find, StackState.capabilities, StackState.view, recorded id physical completed]
    refine ⟨?_, fun _ _ => rfl⟩
    rw [answer, Run.find_resource, completed]
  | _ => exact ⟨rfl, fun _ _ => rfl⟩

theorem gives_of_evaluate {state : StackState} {expression : Expression} {resolution : Resolution} {value : Json}
    (recorded : ∀ id physical, last.completed? id = some physical → state.resources.get? id = some physical)
    (evaluated : template.evaluate (last.capabilities (stack.updateSetting template inputs)) expression
      = .ok resolution)
    (realized : resolution.realize = .ok value) :
  state.Gives stack template inputs expression value
  := by
  have resolved := (Resolution.realize_eq_ok.mp realized).2
  exact ⟨resolution, evaluate_of_recorded recorded evaluated resolved, realized⟩

/-- An update that comes to its end without an error has no failures. -/
theorem succeeds_of_error (completes : (stack.updateSetting template inputs).Completes world middle last)
    (succeeded : (stack.updateReport template inputs last).error = none) :
  (stack.updateSetting template inputs).Succeeds world middle last
  := by
  use completes
  rw [error_updateReport] at succeeded
  split at succeeded
  · next empty => exact List.isEmpty_iff.mp empty
  · cases succeeded

/-- An update that comes to its end without an error leaves a state that records what the template
describes, whatever was recorded before, whatever the schedule, and whatever the providers do. -/
theorem reflects_of_completes (completes : (stack.updateSetting template inputs).Completes world middle last)
    (succeeded : (stack.updateReport template inputs last).error = none) :
  (stack.updateReport template inputs last).stack.state.Reflects stack template inputs
  := by
  have succeeds := succeeds_of_error completes succeeded
  obtain ⟨-, -, unfailed⟩ := updateFailures_eq_nil.mp succeeds.unfailed
  have recorded (id : String) (physical : PhysicalResource) (completed : last.completed? id = some physical) :=
    succeeds.get?_resources.mpr completed
  change (last.recordedState (stack.updateSetting template inputs)).Reflects stack template inputs
  constructor
  · apply succeeds.names_resources
  · intro id physical found
    obtain ⟨resource, decision, declared, prepared, hash⟩ :=
      completes.sound.2.1.applied (succeeds.get?_resources.mp found)
    obtain ⟨resolution, evaluated, decides⟩ := prepared.resolved
    exact ⟨resource, declared, hash, gives_of_evaluate recorded evaluated decides.realized⟩
  · apply Run.names_outputs unfailed
  · intro name value found
    obtain ⟨output, declared, resolution, evaluated, realized⟩ := Run.value_of_outputs unfailed found
    exact ⟨output, declared, gives_of_evaluate recorded evaluated realized⟩

/-- Whenever the report of an update says that all went well, whatever was recorded before, whatever the
schedule, and whatever the providers did, the state records what the template describes. -/
theorem reflects_of_mayReport {parameters : Table String} {report : Report σ}
    (reports : stack.MayReport template parameters world report) (succeeded : report.error = none) :
  ∃ graph inputs, stack.preflight template parameters = .ok (graph, inputs)
    ∧ report.stack.state.Reflects stack template inputs
  := by
  cases reports with
  | refused rejected => cases succeeded
  | completed passed completes => exact ⟨_, _, passed, reflects_of_completes completes succeeded⟩

/-- When a provider makes every resource, a resource and another one that refers to it are recorded. -/
theorem exists_reflects_chained :
  ∃ report, obliging.MayReport .chained .empty () report ∧ report.error = none
    ∧ ∃ graph inputs, obliging.preflight .chained .empty = .ok (graph, inputs)
      ∧ report.stack.state.Reflects obliging .chained inputs
  := by
  obtain ⟨graph, middle, last, passed, completes, succeeded⟩ := exists_completes_obliging
  have reports := MayReport.completed passed completes
  exact ⟨_, reports, succeeded, reflects_of_mayReport reports succeeded⟩

end Stack

end Reconcile
