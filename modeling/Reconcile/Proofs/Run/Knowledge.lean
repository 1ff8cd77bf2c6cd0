import Mathlib.Tactic.Common
import Reconcile.Proofs.Evaluation.Growth
import Reconcile.Proofs.Run.Decisions
import Reconcile.Proofs.Run.Schedule

/-!
# What a run knows of resources

A run answers for a resource once it has been applied, refuses one whose condition is false, and
puts off all others.  As tasks finish it answers for more, and what it answered before stays.  So
an evaluation in the middle of a run says something about all later ones.
-/

namespace Reconcile

variable {σ : Type} {setting : Setting σ}

/-- A resource whose condition is false is excluded. -/
theorem Template.isExcluded_iff {template : Template} {conditions : ConditionValues} {id : String}
    {resource : Resource} (declared : template.resources.get? id = some resource) :
  template.isExcluded conditions id ↔ conditions.isActive resource.condition = .ok false
  := by
  unfold isExcluded
  rw [declared]
  cases hc : resource.condition with
  | none => simp [ConditionValues.isActive, hc]
  | some name =>
    cases hv : conditions.get? name with
    | none => simp [ConditionValues.isActive, ConditionValues.value, hc, hv]
    | some holds => simp [ConditionValues.isActive, ConditionValues.value, hc, hv]

/-- A resource that takes part is not excluded. -/
theorem Template.not_isExcluded {template : Template} {conditions : ConditionValues} {id : String}
    {resource : Resource} (declared : template.resources.get? id = some resource)
    (active : conditions.isActive resource.condition = .ok true) :
  ¬ template.isExcluded conditions id
  := by
  rw [isExcluded_iff declared, active]
  nofun

namespace Run

/-- A task has finished, and has not failed. -/
def EndsWell (run : Run σ) (id : String) : Prop := ∃ outcome, run.result? (.update id) = some (.ok outcome)

theorem completed?_eq_some {run : Run σ} {id : String} {physical : PhysicalResource} :
  run.completed? id = some physical
    ↔ ∃ operation, run.result? (.update id) = some (.ok (.applied physical operation))
  := by
  unfold completed?
  split
  · next resource operation finished => simp [finished]
  · next unapplied =>
    simp only [reduceCtorEq, false_iff, not_exists]
    apply unapplied physical

/-! ### Answers about dependencies -/

theorem find_resource (setting : Setting σ) (run : Run σ) (id : String) :
  (run.capabilities setting).find (.resource id)
    = match run.completed? id with
      | some resource => .ok (some (.resource resource))
      | none =>
        if setting.desired.isExcluded setting.inputs.conditions id then .error (.resourceExcluded id)
        else .ok none
  := by
  simp only [Capabilities.find, capabilities, view]
  cases run.completed? id with
  | some resource => rfl
  | none =>
    dsimp only
    by_cases excluded : setting.desired.isExcluded setting.inputs.conditions id
    · rw [if_pos excluded, if_pos excluded]
    · rw [if_neg excluded, if_neg excluded]

/-- Only resources may be put off, and of those the ones that are neither applied nor excluded. -/
theorem find_eq_none {run : Run σ} {d : Dependency} (h : (run.capabilities setting).find d = .ok none) :
  ∃ id, d = .resource id ∧ run.completed? id = none
    ∧ ¬ setting.desired.isExcluded setting.inputs.conditions id
  := by
  cases d with
  | parameter name =>
    simp only [Capabilities.find, capabilities, Inputs.capabilities] at h
    split at h
    · cases h
    · cases h
  | pseudoParameter name =>
    simp only [Capabilities.find, capabilities, Inputs.capabilities] at h
    split at h
    · cases h
    · cases h
  | condition name =>
    simp only [Capabilities.find, capabilities, Inputs.capabilities] at h
    cases hv : setting.inputs.conditions.value name with
    | error error => simp [hv, Except.map] at h
    | ok holds => simp [hv, Except.map] at h
  | resource id =>
    rw [find_resource] at h
    use id, rfl
    split at h
    · cases h
    · next incomplete =>
      split at h
      · cases h
      · next included => exact ⟨incomplete, included⟩

/-- A run was found to answer for a resource only if it was applied. -/
theorem completed_of_find {run : Run σ} {id : String} {finding : Finding}
    (h : (run.capabilities setting).find (.resource id) = .ok (some finding)) :
  ∃ physical, run.completed? id = some physical
  := by
  rw [find_resource] at h
  split at h
  · next physical completed => exact ⟨physical, completed⟩
  · split at h
    · cases h
    · cases h

/-! ### Later runs -/

/-- A run in which everything that had finished in another has finished in the same way, and in which
nothing was applied whose condition is false. -/
structure Since (setting : Setting σ) (run next : Run σ) : Prop where
  kept : ∀ goal result, run.result? goal = some result → next.result? goal = some result
  heeds : ∀ id, setting.desired.isExcluded setting.inputs.conditions id → next.completed? id = none

/-- A run in which everything is applied that another has applied, in the same way, knows more. -/
theorem extends_of_completed {run next : Run σ}
    (kept : ∀ id physical, run.completed? id = some physical → next.completed? id = some physical)
    (heeds : ∀ id, setting.desired.isExcluded setting.inputs.conditions id → next.completed? id = none) :
  (run.capabilities setting).Extends (next.capabilities setting)
  := by
  intro d known
  cases d with
  | resource id =>
    have same : (next.capabilities setting).find (.resource id) = (run.capabilities setting).find (.resource id) := by
      rw [find_resource] at known
      rw [find_resource, find_resource]
      cases hc : run.completed? id with
      | some physical => rw [kept id physical hc]
      | none =>
        simp only [hc] at known
        split at known
        · next excluded => rw [heeds id excluded]
        · exact absurd rfl known
    exact ⟨same, fun _ _ => rfl⟩
  | _ => exact ⟨rfl, fun _ _ => rfl⟩

namespace Since

variable {run next : Run σ} (since : Since setting run next)

include since

theorem completed? {id : String} {physical : PhysicalResource} (h : run.completed? id = some physical) :
  next.completed? id = some physical
  := by
  obtain ⟨operation, finished⟩ := completed?_eq_some.mp h
  apply completed?_eq_some.mpr ⟨operation, since.kept _ _ finished⟩

theorem endsWell {id : String} (h : run.EndsWell id) :
  next.EndsWell id
  := by
  obtain ⟨outcome, finished⟩ := h
  exact ⟨outcome, since.kept _ _ finished⟩

/-- A later run knows more. -/
theorem knows :
  (run.capabilities setting).Extends (next.capabilities setting)
  := extends_of_completed (fun _ _ => since.completed?) since.heeds

end Since

/-! ### References of a resource -/

/-- Evaluating the properties of a resource asks for another, unless it fails. -/
def Seeks (setting : Setting σ) (run : Run σ) (resource : Resource) (other : String) : Prop :=
  ∀ resolution, setting.desired.evaluate (run.capabilities setting) resource.desiredProperties = .ok resolution →
    .resource other ∈ resolution.resolved ∨ .resource other ∈ resolution.unresolved

theorem Seeks.extends {run next : Run σ} {resource : Resource} {other : String}
    (seeks : run.Seeks setting resource other)
    (knows : (run.capabilities setting).Extends (next.capabilities setting)) :
  next.Seeks setting resource other
  := by
  intro resolution' evaluated'
  cases evaluated : setting.desired.evaluate (run.capabilities setting) resource.desiredProperties with
  | error error =>
    obtain ⟨error', failed⟩ := setting.desired.exists_error_of_extends knows evaluated
    rw [failed] at evaluated'
    cases evaluated'
  | ok resolution =>
    apply setting.desired.mem_of_extends knows evaluated evaluated' (seeks resolution evaluated)

end Run

end Reconcile
