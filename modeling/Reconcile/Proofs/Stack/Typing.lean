import Mathlib.Tactic.Common
import Reconcile.Proofs.Stack.Keeping

/-!
# Types of recorded resources

Whether a resource is made, changed or skipped is decided from its properties alone.  So one that is
skipped keeps the type that it was recorded with, whatever type is declared.  All others have the
declared type after an update that went well, if the providers return what they were asked for.
-/

namespace Reconcile

variable {σ : Type}

/-- Providers return resources of the type that they were asked for. -/
def Providers.KeepTypes (providers : Providers σ) : Prop :=
  ∀ request provider world reply, providers.get request.type = .ok provider → request.kind ≠ .delete →
    (provider.answer request world).1 = .ok reply → reply.resource.type = request.type

/-- A recorded resource has the declared type, unless it was recorded with the same properties before: then it has
the type that it had. -/
structure StackState.Types (previous : StackState) (template : Template) (id : String) (physical : PhysicalResource) :
    Prop where
  declared : ∃ resource, template.resources.get? id = some resource
    ∧ ((∀ before, previous.resources.get? id = some before →
          before.inputProperties.diff physical.inputProperties ≠ []) →
        physical.type = resource.type)
  kept : ∀ before, previous.resources.get? id = some before →
    before.inputProperties.diff physical.inputProperties = [] → physical.type = before.type

variable {setting : Setting σ} {world : σ} {run : Run σ} {id : String} {physical : PhysicalResource}

/-- What has been applied has the type that was asked for, unless it was skipped. -/
theorem Setting.Reaches.types (reaches : setting.Reaches world run) (keep : setting.providers.KeepTypes)
    (completed : run.completed? id = some physical) :
  setting.previous.Types setting.desired id physical
  := by
  obtain ⟨resource, properties, decision, declared, prepared, made | skipped⟩ := reaches.made_or_skipped completed
  · obtain ⟨calls, reply, hm, rfl⟩ := made
    obtain ⟨-, provider, world, serving, answer⟩ := reaches.faithful.answered _ hm
    constructor
    · refine ⟨resource, declared, ?_⟩
      intro _
      have kind : (setting.requestFor id resource properties).kind ≠ .delete := by
        unfold requestFor
        split
        · nofun
        · nofun
      rw [applied, keep _ provider world reply serving kind answer, type_requestFor]
    · intro before recorded same
      exact absurd (prepared.skips_iff.mpr ⟨before, recorded, same⟩) calls
  · obtain ⟨-, before, recorded, same, rfl⟩ := skipped
    constructor
    · refine ⟨resource, declared, ?_⟩
      intro differs
      exact absurd same (differs before recorded)
    · intro before' recorded' _
      cases recorded.symm.trans recorded'
      rfl

namespace Stack

variable {stack : Stack σ} {template : Template} {parameters : Table String} {report : Report σ}

/-- Whenever the report of an update says that all went well, every recorded resource has the type that the template
declares, except that one which was recorded with the same properties before keeps its type. -/
theorem types_of_mayReport (keep : stack.providers.KeepTypes)
    (reports : stack.MayReport template parameters world report) (succeeded : report.error = none) :
  ∀ id physical, report.stack.state.resources.get? id = some physical → stack.state.Types template id physical
  := by
  cases reports with
  | refused rejected => cases succeeded
  | completed passed completes =>
    intro id physical recorded
    have succeeds := succeeds_of_error completes succeeded
    apply completes.reaches.2.types keep (succeeds.get?_resources.mp recorded)

theorem keepTypes_obliging :
  obliging.providers.KeepTypes
  := by
  intro request provider world reply serving _ answer
  cases serving
  cases answer
  rfl

/-- When a provider makes every resource, the recorded ones have their declared types. -/
theorem exists_types_chained :
  ∃ report, obliging.providers.KeepTypes ∧ obliging.MayReport .chained .empty () report ∧ report.error = none
    ∧ ∀ id physical, report.stack.state.resources.get? id = some physical →
        obliging.state.Types .chained id physical
  := by
  obtain ⟨graph, middle, last, passed, completes, succeeded⟩ := exists_completes_obliging
  have reports := MayReport.completed passed completes
  exact ⟨_, keepTypes_obliging, reports, succeeded, types_of_mayReport keepTypes_obliging reports succeeded⟩

/-- A stack of which a resource of one type is recorded. -/
def typed : Stack Unit :=
  { obliging with
    state :=
      { template := { resources := .ofList [("A", { type := "T" })] }
        resources := .ofList [("A", { type := "T", inputProperties := .object [] })] } }

end Stack

/-- A template in which the resource is of another type. -/
def Template.retyped : Template where
  resources := .ofList [("A", { type := "U" })]

/-- An update to another type goes well, with a provider that returns what it is asked for, and the resource stays
recorded with the type that it had. -/
theorem Stack.exists_mayReport_retyped :
  ∃ report physical resource, typed.providers.KeepTypes ∧ typed.MayReport .retyped .empty () report
    ∧ report.error = none ∧ report.stack.state.resources.get? "A" = some physical
    ∧ Template.retyped.resources.get? "A" = some resource ∧ physical.type ≠ resource.type
  := by
  let setting := typed.updateSetting .retyped {}
  have passed : typed.preflight .retyped .empty = .ok (.ofNodes ["A"], {}) := by cbv
  have skipped : ((setting.requested ()).steps? setting [.update "A", .update "A"]).any fun last =>
      last.isOver && (last.failures (setting.desired.resources.names.map .update)).isEmpty
        && (last.outputFailures setting).isEmpty
        && ((last.recordedState setting).resources.get? "A").any fun physical => physical.type = "T" := by
    decide +kernel
  obtain ⟨middle, scheduled, holds⟩ := (Option.any_eq_true _ _).mp skipped
  simp only [Bool.and_eq_true, List.isEmpty_iff] at holds
  obtain ⟨⟨⟨ended, updated⟩, evaluated⟩, recorded⟩ := holds
  obtain ⟨physical, recorded, type⟩ := (Option.any_eq_true _ _).mp recorded
  have nothing : setting.removals = [] := by cbv
  have completes := setting.completes_of_nothing (Run.leads_steps? scheduled) ended updated nothing
  have succeeded := error_updateReport_removing nothing updated evaluated
  refine ⟨_, physical, { type := "U" }, keepTypes_obliging, .completed passed completes, succeeded, recorded, rfl, ?_⟩
  rw [of_decide_eq_true type]
  decide

end Reconcile
