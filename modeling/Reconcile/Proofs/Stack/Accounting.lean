import Mathlib.Tactic.Common
import Reconcile.Proofs.Inputs.Conditions
import Reconcile.Proofs.Outcome
import Reconcile.Proofs.Stack.Completion

/-!
# What becomes of declared resources

A completed update says of every declared resource that takes part whether it was applied.  It was
just when its condition is declared, what it depends on ended well, its properties can be realized
from what was applied, and the operation that these lead to succeeded.  The others are reported, and
no provider is called for the sake of a resource when something that it needs has failed.
-/

namespace Reconcile

variable {σ : Type}

/-! ### Conditions of a validated template -/

namespace Template

variable {template : Template}

theorem names_conditions {supplied : Table String} {config : Config} {inputs : Inputs}
    (h : template.validateInputs supplied config = .ok inputs) :
  inputs.conditions.names = template.conditions.names
  := by
  obtain ⟨parameters, -, h⟩ := Except.bind_eq_ok.mp h
  obtain ⟨conditions, hc, h⟩ := Except.bind_eq_ok.mp h
  obtain ⟨_, -, ⟨⟩⟩ := Except.bind_eq_ok.mp h
  apply names_conditionValues (Except.mapError_eq_ok.mp hc)

/-- What takes part has no condition or a declared one, and conversely, unless its condition is false. -/
theorem isActive_iff {inputs : Inputs} (names : inputs.conditions.names = template.conditions.names)
    {condition : Option String} (included : inputs.conditions.isActive condition ≠ .ok false) :
  inputs.conditions.isActive condition = .ok true
    ↔ ∀ name, condition = some name → template.conditions.contains name
  := by
  cases condition with
  | none => simp [ConditionValues.isActive]
  | some name =>
    have declared : template.conditions.contains name ↔ ∃ holds, inputs.conditions.get? name = some holds := by
      rw [Table.contains_iff, ← names, Table.exists_get?_iff]
    simp only [Option.some.injEq, forall_eq', declared]
    simp only [ConditionValues.isActive, ConditionValues.value] at included ⊢
    cases hv : inputs.conditions.get? name with
    | none => simp
    | some holds =>
      rw [hv] at included
      cases holds with
      | true => simp
      | false => exact absurd rfl included

end Template

/-! ### Applied resources -/

namespace Run

/-- One of so many attempts at the operation of a resource succeeded. -/
def Succeeds (run : Run σ) (id : String) (tries : Nat) : Prop :=
  ∃ attempt reply, attempt < tries ∧ (run.answers (.update id))[attempt]? = some (.ok reply)

/-- A resource has everything that it takes to be applied. -/
structure Warranted (setting : Setting σ) (run : Run σ) (id : String) (resource : Resource) : Prop where
  condition : ∀ name, resource.condition = some name → setting.desired.conditions.contains name
  dependencies : ∀ other ∈ resource.dependsOn,
    (∃ physical, run.completed? other = some physical) ∨ run.result? (.update other) = some (.ok .excluded)
  operation : ∃ resolution properties decision,
    setting.desired.evaluate (run.capabilities setting) resource.desiredProperties = .ok resolution
      ∧ setting.Decides id resource resolution properties decision
      ∧ (decision.operation = .create ∨ decision.operation = .update →
          ∃ provider, setting.providers.get resource.type = .ok provider
            ∧ run.Succeeds id (setting.tries provider (setting.requestFor id resource properties).kind))

variable {setting : Setting σ} {run : Run σ} {id : String} {resource : Resource}

/-- An operation on known properties is not put off. -/
theorem Prepared.calls_iff {properties : Json} {decision : Decision}
    (prepared : run.Prepared setting id resource properties decision) :
  decision.operation ≠ .skip ↔ decision.operation = .create ∨ decision.operation = .update
  := by
  obtain ⟨resolution, -, realized, decided⟩ := prepared.resolved
  rw [Decision.ofResolution_eq realized] at decided
  cases hp : setting.previous.resources.get? id with
  | none =>
    rw [hp] at decided
    cases decided
    simp
  | some previous =>
    rw [hp] at decided
    cases decided
    dsimp only
    split
    · simp
    · simp

/-- Nothing thwarts a resource that is prepared but the lack of a provider or its refusal. -/
theorem Thwarted.of_prepared {answers : List Answer} {properties : Json} {decision : Decision}
    (thwarted : run.Thwarted setting answers id resource)
    (prepared : run.Prepared setting id resource properties decision) :
  decision.operation ≠ .skip
    ∧ ∀ provider, setting.providers.get resource.type = .ok provider →
        Refusals answers ∧ answers.length = setting.tries provider (setting.requestFor id resource properties).kind
  := by
  cases thwarted with
  | inactive failed => cases prepared.active.symm.trans failed
  | unpreceded needed failed =>
    obtain ⟨outcome, finished⟩ := prepared.preceded _ needed
    cases finished.symm.trans failed
  | unsupplied seeks failed =>
    obtain ⟨outcome, finished⟩ := prepared.endsWell seeks
    cases finished.symm.trans failed
  | unresolved failed =>
    obtain ⟨resolution, evaluated, -⟩ := prepared.resolved
    cases evaluated.symm.trans failed
  | unserved prepared' calls missing =>
    obtain ⟨rfl, rfl⟩ := prepared.unique prepared'
    use calls
    intro provider serving
    cases serving.symm.trans missing
  | exhausted prepared' calls serving refused spent =>
    obtain ⟨rfl, rfl⟩ := prepared.unique prepared'
    use calls
    intro provider serving'
    obtain rfl := Except.ok.inj (serving.symm.trans serving')
    exact ⟨refused, spent⟩

/-- A refused answer is no success. -/
theorem not_succeeds {tries : Nat} (refused : Refusals (run.answers (.update id))) :
  ¬ run.Succeeds id tries
  := by
  rintro ⟨attempt, reply, -, answered⟩
  obtain ⟨messages, failed⟩ := refused _ (List.mem_of_getElem? answered)
  cases failed

namespace Sound

variable (sound : run.Sound setting)

include sound

theorem endsWell_iff :
  run.EndsWell id
    ↔ (∃ physical, run.completed? id = some physical) ∨ run.result? (.update id) = some (.ok .excluded)
  := by
  constructor
  · rintro ⟨outcome, finished⟩
    obtain ⟨resource, -, ⟨-, physical, operation, rfl⟩ | ⟨-, rfl⟩⟩ := (sound.accounted finished).cases_of_ok
    · exact .inl ⟨physical, completed?_eq_some.mpr ⟨operation, finished⟩⟩
    · exact .inr finished
  · rintro (⟨physical, completed⟩ | excluded)
    · obtain ⟨operation, finished⟩ := completed?_eq_some.mp completed
      exact ⟨_, finished⟩
    · exact ⟨_, excluded⟩

section

variable (names : setting.inputs.conditions.names = setting.desired.conditions.names)
  (included : setting.inputs.conditions.isActive resource.condition ≠ .ok false)

include names included

theorem prepared_iff {properties : Json} {decision : Decision} :
  run.Prepared setting id resource properties decision
    ↔ (∀ name, resource.condition = some name → setting.desired.conditions.contains name)
        ∧ (∀ other ∈ resource.dependsOn,
            (∃ physical, run.completed? other = some physical) ∨ run.result? (.update other) = some (.ok .excluded))
        ∧ ∃ resolution,
            setting.desired.evaluate (run.capabilities setting) resource.desiredProperties = .ok resolution
              ∧ setting.Decides id resource resolution properties decision
  := by
  rw [← Template.isActive_iff names included]
  simp only [← sound.endsWell_iff]
  constructor
  · rintro ⟨active, preceded, resolved⟩
    exact ⟨active, preceded, resolved⟩
  · rintro ⟨active, preceded, resolved⟩
    exact ⟨active, preceded, resolved⟩

/-- A resource that takes part was applied just when it was warranted. -/
theorem completed_iff {result : Except StackError Outcome}
    (declared : setting.desired.resources.get? id = some resource)
    (finished : run.result? (.update id) = some result) :
  (∃ physical, run.completed? id = some physical) ↔ run.Warranted setting id resource
  := by
  have justified := (sound.accounted finished).justified declared
  constructor
  · rintro ⟨physical, completed⟩
    obtain ⟨operation, applied⟩ := completed?_eq_some.mp completed
    obtain rfl := Option.some.inj (finished.symm.trans applied)
    cases justified with
    | skipped prepared skips recorded =>
      obtain ⟨condition, dependencies, resolution, evaluated, decides⟩ :=
        (sound.prepared_iff names included).mp prepared
      refine ⟨condition, dependencies, resolution, _, _, evaluated, decides, ?_⟩
      intro calls
      exact absurd skips (prepared.calls_iff.mpr calls)
    | @succeeded _ _ provider reply refusals prepared calls serving refused answered allowed =>
      obtain ⟨condition, dependencies, resolution, evaluated, decides⟩ :=
        (sound.prepared_iff names included).mp prepared
      refine ⟨condition, dependencies, resolution, _, _, evaluated, decides, ?_⟩
      intro _
      use provider, serving, refusals.length, reply
      constructor
      · rw [answered, List.length_append, List.length_singleton] at allowed
        apply allowed
      · simp [answered]
  · rintro ⟨condition, dependencies, resolution, properties, decision, evaluated, decides, operation⟩
    have prepared : run.Prepared setting id resource properties decision :=
      (sound.prepared_iff names included).mpr ⟨condition, dependencies, resolution, evaluated, decides⟩
    match result with
    | .ok outcome =>
      obtain ⟨-, completed⟩ | ⟨inactive, -⟩ := sound.completed_or_excluded declared finished
      · apply completed
      · exact absurd inactive included
    | .error error =>
      cases justified with
      | thwarted _ thwarted =>
        obtain ⟨calls, refused⟩ := thwarted.of_prepared prepared
        obtain ⟨provider, serving, succeeds⟩ := operation (prepared.calls_iff.mp calls)
        exact absurd succeeds (not_succeeds (refused provider serving).1)

end

/-- The operation of a resource that was not applied was refused as often as it may be attempted. -/
theorem refused {error : StackError} {properties : Json} {decision : Decision} {provider : Provider σ}
    (declared : setting.desired.resources.get? id = some resource)
    (failed : run.result? (.update id) = some (.error error))
    (prepared : run.Prepared setting id resource properties decision)
    (serving : setting.providers.get resource.type = .ok provider) :
  Refusals (run.answers (.update id))
    ∧ (run.answers (.update id)).length
      = setting.tries provider (setting.requestFor id resource properties).kind
  := by
  cases (sound.accounted failed).justified declared with
  | thwarted _ thwarted => exact (thwarted.of_prepared prepared).2 provider serving

end Sound

end Run

/-! ### Accounts of updates -/

/-- At some time while declared resources were brought up to date, the task of one waited for that of
another. -/
def Setting.Awaited (setting : Setting σ) (world : σ) (middle : Run σ) (id other : String) : Prop :=
  ∃ count count' earlier on awaited, Run.Leads setting (setting.requested world) count earlier
    ∧ Run.Leads setting earlier count' middle
    ∧ earlier.progress? (.update id) = some (.waiting on awaited) ∧ other ∈ on

/-- A completed update accounts for the declared resources that take part. -/
structure Stack.Accounts (stack : Stack σ) (template : Template) (inputs : Inputs) (world : σ)
    (middle last : Run σ) : Prop where
  /-- A resource was applied just when it was warranted. -/
  applied_iff : ∀ id resource, template.resources.get? id = some resource →
    ¬ template.isExcluded inputs.conditions id →
    ((∃ physical, last.completed? id = some physical)
      ↔ last.Warranted (stack.updateSetting template inputs) id resource)
  /-- When only the operation failed, it was attempted as often as it may be. -/
  exhausted : ∀ id resource properties decision provider, template.resources.get? id = some resource →
    last.completed? id = none →
    last.Prepared (stack.updateSetting template inputs) id resource properties decision →
    stack.providers.get resource.type = .ok provider →
    Refusals (last.answers (.update id))
      ∧ (last.answers (.update id)).length
        = (stack.updateSetting template inputs).tries provider
            ((stack.updateSetting template inputs).requestFor id resource properties).kind
  /-- The others are reported once each, in the order of the template. -/
  reported :
    let failed := template.resources.names.filter fun id =>
      (last.completed? id).isNone && !template.isExcluded inputs.conditions id
    failed.Nodup ∧ (failed = [] ∨ ∃ failures,
      (stack.updateReport template inputs last).error = some (.updateFailed failures)
        ∧ failures.map (·.1) = failed)
  /-- No provider makes or changes a resource when something that it depends on, or waited for, failed. -/
  spared : ∀ id resource other error, template.resources.get? id = some resource →
    last.result? (.update other) = some (.error error) →
    other ∈ resource.dependsOn ∨ (stack.updateSetting template inputs).Awaited world middle id other →
    ∀ call ∈ last.calls, call.request.goal ≠ .update id

namespace Setting.Completes

variable {setting : Setting σ} {world : σ} {middle last : Run σ}

/-- What a task waited for has been applied, if a provider was called for its resource. -/
theorem endsWell_of_call (completes : setting.Completes world middle last) {id other : String} {resource : Resource}
    (declared : setting.desired.resources.get? id = some resource)
    (needed : other ∈ resource.dependsOn ∨ setting.Awaited world middle id other) {call : Call}
    (hc : call ∈ last.calls) (served : call.request.goal = .update id) :
  last.EndsWell other
  := by
  obtain ⟨middleSound, lastSound, since⟩ := completes.sound
  obtain ⟨resource', properties, decision, declared', prepared, -⟩ := lastSound.calls call hc id served
  obtain rfl := Option.some.inj (declared.symm.trans declared')
  obtain needed | ⟨_, _, earlier, on, awaited, leads, leads', waiting, ho⟩ := needed
  · apply prepared.preceded other needed
  · obtain ⟨sound, -⟩ := leads.sound (setting.sound_requested world)
    obtain ⟨-, since'⟩ := leads'.sound sound
    cases (sound.updates id _ waiting).justified declared with
    | preceding untried active => apply prepared.preceded other ho
    | seeking untried active preceded within supplied seeks =>
      apply prepared.endsWell ((seeks other (within other ho)).extends (since'.trans since).knows)

/-- A declared resource failed if it was neither applied nor excluded. -/
theorem failed_eq (completes : setting.Completes world middle last) {id : String}
    (declared : id ∈ setting.desired.resources.names) :
  (last.result? (.update id)).any (fun result => !result.isOk)
    = ((last.completed? id).isNone && !setting.desired.isExcluded setting.inputs.conditions id)
  := by
  obtain ⟨resource, declared⟩ := (Table.exists_get?_iff _ _).mpr declared
  obtain ⟨result, -, finished⟩ := completes.exists_result declared
  match result with
  | .error error =>
    have incomplete : last.completed? id = none := by rw [Run.completed?, finished]
    cases (completes.sound.2.1.accounted finished).justified declared with
    | thwarted included _ =>
      have notExcluded : ¬ setting.desired.isExcluded setting.inputs.conditions id :=
        mt (Template.isExcluded_iff declared).mp included
      simp [finished, incomplete, notExcluded, Except.isOk, Except.toBool]
  | .ok outcome =>
    obtain ⟨-, physical, completed⟩ | ⟨inactive, -⟩ := completes.sound.2.1.completed_or_excluded declared finished
    · simp [finished, completed, Except.isOk, Except.toBool]
    · have excluded : setting.desired.isExcluded setting.inputs.conditions id :=
        (Template.isExcluded_iff declared).mpr inactive
      simp [finished, excluded, Except.isOk, Except.toBool]

end Setting.Completes

namespace Stack

variable {stack : Stack σ} {template : Template} {parameters : Table String} {graph : Graph} {inputs : Inputs}
  {world : σ} {middle last : Run σ}

/-- The failures of an update that stops are those of declared resources. -/
theorem updateFailures_of_stops {setting : Setting σ} {deleted : List String}
    (completes : setting.Completes world middle last)
    (failed : middle.failures (setting.desired.resources.names.map .update) ≠ []) :
  updateFailures setting last deleted = last.failures (setting.desired.resources.names.map .update)
  := by
  obtain rfl := completes.stops failed
  obtain ⟨count, leads⟩ := completes.updates
  have none : last.failures (deleted.map .delete) = [] := by
    apply Run.failures_eq_nil.mpr
    intro goal hg error
    obtain ⟨id, -, rfl⟩ := List.mem_map.mp hg
    simp [Run.result?, leads.no_deletion id]
  unfold updateFailures
  rw [Run.failures_append, none, List.append_nil]
  split
  · next nothing => exact absurd nothing failed
  · rfl

/-- Whatever the schedule and the providers, an update that comes to its end accounts for every declared
resource that takes part. -/
theorem accounts_of_completes (passed : stack.preflight template parameters = .ok (graph, inputs))
    (completes : (stack.updateSetting template inputs).Completes world middle last) :
  stack.Accounts template inputs world middle last
  := by
  obtain ⟨-, sound, since⟩ := completes.sound
  have names : inputs.conditions.names = template.conditions.names := by
    apply Template.names_conditions (preflight_eq_ok.mp passed).2
  constructor
  · intro id resource declared included
    obtain ⟨result, -, finished⟩ := completes.exists_result declared
    apply sound.completed_iff names (mt (Template.isExcluded_iff declared).mpr included) declared finished
  · intro id resource properties decision provider declared incomplete prepared serving
    obtain ⟨result, -, finished⟩ := completes.exists_result declared
    match result with
    | .error error => apply sound.refused declared finished prepared serving
    | .ok outcome =>
      obtain ⟨-, physical, completed⟩ | ⟨inactive, -⟩ := sound.completed_or_excluded declared finished
      · cases incomplete.symm.trans completed
      · cases prepared.active.symm.trans inactive
  · have failed_eq : template.resources.names.filter
          (fun id => (last.completed? id).isNone && !template.isExcluded inputs.conditions id)
        = template.resources.names.filter
          fun id => (last.result? (.update id)).any fun result => !result.isOk := by
      apply List.filter_congr
      intro id declared
      exact (completes.failed_eq declared).symm
    rw [failed_eq, ← Run.map_failures .update fun _ => rfl]
    constructor
    · rw [Run.map_failures .update fun _ => rfl]
      apply template.resources.nodup_names.filter _
    · by_cases failed : middle.failures (template.resources.names.map .update) = []
      · left
        rw [Run.map_failures .update fun _ => rfl, List.filter_eq_nil_iff]
        intro id declared
        obtain ⟨resource, declared'⟩ := (Table.exists_get?_iff _ _).mpr declared
        obtain ⟨result, middleFinished, finished⟩ := completes.exists_result declared'
        rw [finished]
        cases result with
        | ok outcome => simp [Except.isOk, Except.toBool]
        | error error =>
          exact absurd middleFinished (Run.failures_eq_nil.mp failed _ (List.mem_map_of_mem declared) error)
      · right
        refine ⟨_, ?_, rfl⟩
        rw [error_updateReport, updateFailures_of_stops completes failed]
        obtain rfl := completes.stops failed
        apply if_neg (mt List.isEmpty_iff.mp failed)
  · intro id resource other error declared failed needed call hc served
    obtain ⟨outcome, finished⟩ := completes.endsWell_of_call declared needed hc served
    cases finished.symm.trans failed

/-- When a provider refuses to make a resource, that is accounted for, and so is another one that refers to
it. -/
theorem exists_accounts_chained :
  ∃ graph inputs middle last, refusing.preflight .chained .empty = .ok (graph, inputs)
    ∧ (refusing.updateSetting .chained inputs).Completes () middle last
    ∧ refusing.Accounts .chained inputs () middle last
  := by
  obtain ⟨graph, passed⟩ := preflight_chained fun _ => .error ["refused"]
  let setting := refusing.updateSetting .chained {}
  have refused : ((setting.requested ()).steps? setting
      [.update "Top", .update "Base", .update "Top", .update "Base", .update "Base", .update "Top"]).any
        fun last => last.isOver && !(last.failures (setting.desired.resources.names.map .update)).isEmpty := by
    decide +kernel
  obtain ⟨last, scheduled, holds⟩ := (Option.any_eq_true _ _).mp refused
  simp only [Bool.and_eq_true, Bool.not_eq_true', List.isEmpty_eq_false_iff] at holds
  obtain ⟨ended, failed⟩ := holds
  have completes : setting.Completes () last last :=
    ⟨Run.leads_steps? scheduled, ended, fun none => absurd none failed, fun _ => rfl⟩
  exact ⟨graph, {}, last, last, passed, completes, accounts_of_completes passed completes⟩

end Stack

end Reconcile
