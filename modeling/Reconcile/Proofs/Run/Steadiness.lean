import Mathlib.Tactic.Common
import Reconcile.Proofs.Evaluation.Exposure
import Reconcile.Proofs.Run.Soundness

/-!
# Steady resources

A resource is steady when it is recorded, and its properties, evaluated with steady resources,
do not differ from the recorded ones.  However far a run has come with the others, it leaves the
steady resources as they are, and calls no provider for them.
-/

namespace Reconcile

variable {σ : Type}

namespace Setting

variable (setting : Setting σ)

/-- What an evaluation may ask for when a view answers for the resources. -/
def capabilities (view : ResourceView) : Capabilities :=
  { setting.inputs.capabilities setting.config with resources := some view }

/-- The properties of a declared resource are known, with what a view tells of resources. -/
def Evaluates (view : ResourceView) (resource : Resource) (properties : Json) : Prop :=
  ∃ resolution, setting.desired.evaluate (setting.capabilities view) resource.desiredProperties = .ok resolution
    ∧ resolution.realize = .ok properties

/-- The resources that are available in a view are recorded as they look there, and what their properties
evaluate to does not differ from what is recorded. -/
structure Settles (view : ResourceView) : Prop where
  refs : view.refAttribute = setting.providers.refAttribute
  settled : ∀ id known, view.availability id = .available known →
    ∃ previous resource properties, setting.previous.resources.get? id = some previous
      ∧ previous.exposed = known.exposed ∧ setting.desired.resources.get? id = some resource
      ∧ setting.Evaluates view resource properties ∧ previous.inputProperties.diff properties = []

end Setting

namespace Run

/-- What has been applied of the resources that are available in a view looks as it does there. -/
def Steady (run : Run σ) (view : ResourceView) : Prop :=
  ∀ id known physical, view.availability id = .available known → run.completed? id = some physical →
    physical.exposed = known.exposed

variable {setting : Setting σ} {view : ResourceView} {run next : Run σ} {id : String} {known : PhysicalResource}

theorem availability_view {physical : PhysicalResource} :
  (run.view setting).availability id = .available physical ↔ run.completed? id = some physical
  := by
  simp only [Run.view]
  cases run.completed? id with
  | some resource => simp
  | none =>
    dsimp only
    split
    · simp
    · simp

/-- A prepared resource is left as it is when it is recorded and its properties do not differ. -/
theorem Prepared.skips_iff {resource : Resource} {properties : Json} {decision : Decision}
    (prepared : run.Prepared setting id resource properties decision) :
  decision.operation = .skip
    ↔ ∃ previous, setting.previous.resources.get? id = some previous ∧ previous.inputProperties.diff properties = []
  := by
  obtain ⟨resolution, -, realized, decided⟩ := prepared.resolved
  rw [Decision.ofResolution_eq realized] at decided
  cases recorded : setting.previous.resources.get? id with
  | none =>
    rw [recorded] at decided
    cases decided
    simp
  | some previous =>
    rw [recorded] at decided
    cases decided
    simp

namespace Steady

/-- Where the properties of a resource are known in a view, they are prepared as they look there. -/
theorem properties_eq (steady : run.Steady view) (refs : view.refAttribute = setting.providers.refAttribute)
    {resource : Resource} {properties properties' : Json} {decision : Decision}
    (evaluates : setting.Evaluates view resource properties)
    (prepared : run.Prepared setting id resource properties' decision) :
  properties' = properties
  := by
  obtain ⟨resolution, evaluated, realized⟩ := evaluates
  obtain ⟨resolution', evaluated', decides⟩ := prepared.resolved
  symm
  apply Template.realize_unique refs _ evaluated' decides.realized evaluated realized
  intro id physical known completed available
  exact (steady id known physical available (availability_view.mp completed)).symm

/-- A steady resource is skipped, with the properties that the view gives it. -/
theorem skips (steady : run.Steady view) (settles : setting.Settles view)
    (available : view.availability id = .available known) {resource : Resource}
    (declared : setting.desired.resources.get? id = some resource) {properties : Json} {decision : Decision}
    (prepared : run.Prepared setting id resource properties decision) :
  decision.operation = .skip
    ∧ (∃ previous, setting.previous.resources.get? id = some previous ∧ previous.exposed = known.exposed)
    ∧ setting.Evaluates view resource properties
  := by
  obtain ⟨previous, resource', properties', recorded, exposed, declared', evaluates, same⟩ :=
    settles.settled id known available
  obtain rfl := Option.some.inj (declared.symm.trans declared')
  obtain rfl := steady.properties_eq settles.refs evaluates prepared
  exact ⟨prepared.skips_iff.mpr ⟨previous, recorded, same⟩, ⟨previous, recorded, exposed⟩, evaluates⟩

/-- No provider is called for a steady resource. -/
theorem uncalled (steady : run.Steady view) (settles : setting.Settles view) (sound : run.Sound setting)
    (available : view.availability id = .available known) :
  ∀ call ∈ run.calls, call.request.goal ≠ .update id
  := by
  intro call hc served
  obtain ⟨resource, properties, decision, declared, prepared, calls, -⟩ := sound.calls call hc id served
  exact calls (steady.skips settles available declared prepared).1

/-- A step leaves steady resources as they are. -/
theorem step (steady : run.Steady view) (settles : setting.Settles view) (sound : run.Sound setting)
    {goal : Goal} (h : run.step? setting goal = some next) :
  next.Steady view
  := by
  obtain ⟨before, after, new, hb, move, entered, -⟩ := step?_spec h
  intro id known physical available completed
  by_cases hg : Goal.update id = goal
  · subst hg
    obtain ⟨operation, finished⟩ := completed?_eq_some.mp completed
    rw [result?_eq_some, entered.progress?_eq, if_pos rfl] at finished
    obtain rfl := Option.some.inj finished
    obtain ⟨resource, declared, justified⟩ := (sound.accounted_of_move hb move).declared (by simp) (by simp)
    cases justified with
    | skipped prepared skips recorded =>
      obtain ⟨-, ⟨previous, recorded', exposed⟩, -⟩ := steady.skips settles available declared prepared
      obtain rfl := Option.some.inj (recorded.symm.trans recorded')
      apply exposed
    | succeeded prepared calls serving refused answered allowed =>
      exact absurd (steady.skips settles available declared prepared).1 calls
  · apply steady id known physical available
    unfold Run.completed? at completed ⊢
    rwa [(entered.kept hg).result?] at completed

end Steady

theorem steady_requested (setting : Setting σ) (world : σ) (view : ResourceView) :
  (setting.requested world).Steady view
  := by
  intro id known physical _ completed
  obtain ⟨operation, finished⟩ := completed?_eq_some.mp completed
  rw [Setting.result?_requested] at finished
  cases finished

end Run

end Reconcile
