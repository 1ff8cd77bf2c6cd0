import Mathlib.Tactic.Common
import Reconcile.Proofs.Evaluation.Growth

/-!
# What resolutions tell

A resolution has a value just when nothing that was asked for is missing, and otherwise it names
what is.  When more is available, a failure remains one, a value remains the same, and all that was
asked for is asked for again.  Whatever a resolution does not mention had no influence on it.
-/

namespace Reconcile

open Evaluation

/-! ### What is missing -/

/-- Dependencies are told apart by their words. -/
theorem Dependency.text_injective :
  Function.Injective Dependency.text
  := by
  intro d e h
  unfold text at h
  have characters := congrArg String.toList h
  -- The words of two kinds differ in one of their first two characters.
  cases d <;> cases e <;> simp [String.toList_append] at characters ⊢
  all_goals exact String.toList_injective characters

/-- A resolution that is not realized is refused for what is unresolved. -/
theorem Resolution.eq_of_realize_eq_error {resolution : Resolution} {error : EvaluationError}
    (h : resolution.realize = .error error) :
  error = .unresolvedAccess (resolution.unresolved.map Dependency.text)
  := by
  unfold realize at h
  split at h
  · cases h
  · cases h
    rfl

/-- A resolution is conclusive about what a bundle of capabilities lacks. -/
structure Capabilities.Concludes (capabilities : Capabilities) (resolution : Resolution) : Prop where
  /-- There is a value just when nothing is unresolved, -/
  value : resolution.value.isSome ↔ resolution.unresolved = []
  /-- and then it is realized. -/
  realized : (∃ value, resolution.realize = .ok value) ↔ resolution.unresolved = []
  /-- If it is refused, the unresolved dependencies are given as the reason, -/
  refused : ∀ error, resolution.realize = .error error →
    error = .unresolvedAccess (resolution.unresolved.map Dependency.text)
  /-- and no others are named. -/
  named : ∀ d : Dependency, d.text ∈ resolution.unresolved.map Dependency.text ↔ d ∈ resolution.unresolved
  /-- What is unresolved is not available, -/
  missing : ∀ d ∈ resolution.unresolved, capabilities.find d = .ok none
  /-- and what is resolved is. -/
  found : ∀ d ∈ resolution.resolved, ∃ finding, capabilities.find d = .ok (some finding)

/-- The resolution of a computation is conclusive when its result is pending just while something is
unresolved, and its footprint is truthful. -/
theorem Capabilities.concludes_of_resolution {among : String → Prop}
    {inquiry : Capabilities → Evaluation (Option Json)} (grounded : Grounded among inquiry)
    {capabilities : Capabilities} (below : Below (· = none) True (inquiry capabilities) (inquiry capabilities))
    {resolution : Resolution} (h : Template.resolution (inquiry capabilities) = .ok resolution) :
  capabilities.Concludes resolution
  := by
  cases ended : inquiry capabilities with
  | failed error =>
    rw [ended] at h
    cases h
  | ended value footprint =>
    rw [ended] at h
    cases h
    have pending : value = none ↔ footprint.unresolved ≠ [] := by simpa using below.pending_iff ended
    have available : value.isSome ↔ arranged footprint.unresolved = [] := by
      rw [arranged_eq_nil, ← not_iff_not, Option.not_isSome_iff_eq_none]
      exact pending
    constructor
    · exact available
    · simp only [Resolution.realize_eq_ok, exists_and_right, and_iff_right_iff_imp]
      intro resolved
      exact Option.isSome_iff_exists.mp (available.mpr resolved)
    · intro error
      exact Resolution.eq_of_realize_eq_error
    · intro d
      exact List.mem_map_of_injective Dependency.text_injective
    · intro d hd
      exact grounded.missed ended d (mem_arranged.mp hd)
    · intro d hd
      exact grounded.found ended d (mem_arranged.mp hd)

/-- The resolutions of expressions and of conditions are conclusive. -/
theorem Template.concludes_of_evaluates (template : Template) (capabilities : Capabilities) :
  (∀ expression resolution, template.evaluate capabilities expression = .ok resolution →
    capabilities.Concludes resolution)
    ∧ ∀ name resolution, capabilities.evaluateCondition name = .ok resolution → capabilities.Concludes resolution
  := by
  have same := Capabilities.Extends.refl capabilities
  constructor
  · intro expression resolution evaluated
    have grounded : Grounded (fun _ => True) fun capabilities =>
        (template.eval capabilities expression).andThen fun slot => .result slot.argument? := by
      apply Grounded.andThen
      · apply template.grounded_eval expression fun _ _ => trivial
      · intro slot
        exact .result _
    apply Capabilities.concludes_of_resolution grounded _ evaluated
    apply (template.below_eval same expression).map
    intro slot
    exact Slot.argument?_eq_none
  · intro name resolution evaluated
    have grounded : Grounded (fun _ => True) fun capabilities =>
        (evalCondition capabilities name).andThen fun holds => .result (holds.map Json.bool) := by
      apply Grounded.andThen
      · apply grounded_evalCondition name
      · intro holds
        exact .result _
    apply Capabilities.concludes_of_resolution grounded _ evaluated
    apply (below_evalCondition same name).map
    intro holds
    exact Option.map_eq_none_iff

/-- Dependencies that are in order and without repetition stay as they are. -/
theorem arranged_eq_self {dependencies : List Dependency} (nodup : dependencies.Nodup)
    (sorted : dependencies.Pairwise fun d e => d.le e) :
  arranged dependencies = dependencies
  := by
  have distinct : dependencies.eraseDups = dependencies := by
    clear sorted
    induction dependencies with
    | nil => rfl
    | cons d rest ih =>
      obtain ⟨fresh, nodup⟩ := List.nodup_cons.mp nodup
      rw [List.eraseDups_cons, List.filter_eq_self.mpr, ih nodup]
      intro e he
      simpa using ne_of_mem_of_not_mem he fresh
  rw [arranged, distinct, List.mergeSort_of_pairwise sorted]

/-- A template with a parameter and two resources. -/
def Template.twofold : Template where
  parameters := .ofList [("Name", { type := .string })]
  resources := .ofList [("Base", { type := "T" }), ("Side", { type := "T" })]

/-- An expression with a choice, the first branch of which refers to a resource. -/
def Expression.mixed : Expression :=
  .list [.ref "Name", .ifNamed "Live" (.getAtt "Base" "Arn") .null, .ref "Side"]

/-- A view in which one resource is available, and another one may be. -/
def ResourceView.ofBase (base : Availability) : ResourceView where
  availability
    | "Base" => base
    | "Side" => .available { type := "T", physicalId := some "side" }
    | _ => .excluded

/-- A bundle without conditions, by which a resource is pending. -/
def Capabilities.early : Capabilities where
  parameters := some fun _ => some (.string "name")
  resources := some (.ofBase .pending)

theorem Template.evaluate_early :
  twofold.evaluate .early .mixed
    = .ok ⟨none, [.parameter "Name", .resource "Side"], [.condition "Live"]⟩
  := by
  apply twofold.evaluate_eq_ok.mpr
  refine ⟨.pending, ⟨[.parameter "Name", .resource "Side"], [.condition "Live"]⟩, rfl, ?_⟩
  rw [arranged_eq_self (by decide) (by decide), arranged_eq_self (by decide) (by decide)]
  rfl

/-- The evaluation of the example is pending, and it names the condition that is missing. -/
theorem Template.concludes_early :
  Capabilities.early.Concludes ⟨none, [.parameter "Name", .resource "Side"], [.condition "Live"]⟩
  := (concludes_of_evaluates twofold .early).1 .mixed _ evaluate_early

/-! ### The footprint -/

namespace Capabilities

variable {capabilities capabilities' : Capabilities}

/-- A resource is found by a view of the resources. -/
theorem exists_view_of_find {d : Dependency} {resource : PhysicalResource}
    (h : capabilities.find d = .ok (some (.resource resource))) :
  ∃ view, capabilities.resources = some view
  := by
  cases d with
  | resource id =>
    cases hv : capabilities.resources with
    | some view => exact ⟨view, rfl⟩
    | none => simp [find, hv] at h
  | condition name =>
    obtain ⟨_, ⟨⟩⟩ := exists_truth_of_find h
  | parameter name | pseudoParameter name =>
    simp only [find] at h
    split at h
    · cases h
    · split at h <;> cases h

/-- Two bundles that find the same agree when their references stand for the same attributes. -/
theorem agree_of_find {d : Dependency} (same : capabilities'.find d = capabilities.find d)
    (projected : ∀ view view', capabilities.resources = some view → capabilities'.resources = some view' →
      view'.refAttribute = view.refAttribute) :
  capabilities.Agree capabilities' d
  := by
  constructor
  · apply same
  · intro resource found
    obtain ⟨view, hv⟩ := exists_view_of_find found
    obtain ⟨view', hv'⟩ := exists_view_of_find (same.trans found)
    simp only [Template.refValue, hv, hv', Option.bind_some, projected view view' hv hv']

end Capabilities

/-- An evaluation is decided by what is found of the dependencies of its resolution, whatever is found of
any others. -/
theorem Template.evaluate_of_footprint (template : Template) {capabilities capabilities' : Capabilities}
    {expression : Expression} {resolution : Resolution}
    (evaluated : template.evaluate capabilities expression = .ok resolution)
    (same : ∀ d, d ∈ resolution.resolved ∨ d ∈ resolution.unresolved →
      capabilities'.find d = capabilities.find d)
    (projected : ∀ view view', capabilities.resources = some view → capabilities'.resources = some view' →
      view'.refAttribute = view.refAttribute) :
  template.evaluate capabilities' expression = .ok resolution
  := by
  apply template.evaluate_of_agree evaluated
  intro d hd
  apply Capabilities.agree_of_find (same d hd) projected

/-- A bundle that differs from the early one in all that the example does not ask for. -/
def Capabilities.apart : Capabilities where
  parameters := some fun name => if name = "Name" then some (.string "name") else none
  pseudoParameters := some fun _ => some (.string "elsewhere")
  resources := some (.ofBase .excluded)

theorem Template.evaluate_apart :
  twofold.evaluate .apart .mixed
    = .ok ⟨none, [.parameter "Name", .resource "Side"], [.condition "Live"]⟩
  := by
  apply evaluate_of_footprint twofold evaluate_early
  · intro d hd
    simp only [List.mem_cons, List.not_mem_nil, or_false, or_assoc] at hd
    obtain rfl | rfl | rfl := hd <;> rfl
  · rintro _ _ ⟨⟩ ⟨⟩
    rfl

/-! ### More is available -/

/-- A bundle of capabilities answers as another one does, except where that has no answer. -/
structure Capabilities.Refines (capabilities capabilities' : Capabilities) : Prop where
  parameters : ∀ values, capabilities.parameters = some values → capabilities'.parameters = some values
  conditions : ∀ values, capabilities.conditions = some values → capabilities'.conditions = some values
  pseudoParameters : ∀ values, capabilities.pseudoParameters = some values →
    capabilities'.pseudoParameters = some values
  /-- References stand for the same attributes, and a resource that is not pending remains as it is. -/
  resources : ∀ view, capabilities.resources = some view →
    ∃ view', capabilities'.resources = some view' ∧ view'.refAttribute = view.refAttribute
      ∧ ∀ id, view.availability id ≠ .pending → view'.availability id = view.availability id

namespace Capabilities.Refines

variable {capabilities capabilities' : Capabilities}

/-- What is found of a dependency, or never to be found, remains so. -/
theorem find_eq (refines : capabilities.Refines capabilities') {d : Dependency}
    (known : capabilities.find d ≠ .ok none) :
  capabilities'.find d = capabilities.find d
  := by
  cases d with
  | parameter name =>
    cases supplied : capabilities.parameters with
    | none => simp [find, supplied] at known
    | some values => simp only [find, supplied, refines.parameters values supplied]
  | pseudoParameter name =>
    cases supplied : capabilities.pseudoParameters with
    | none => simp [find, supplied] at known
    | some values => simp only [find, supplied, refines.pseudoParameters values supplied]
  | condition name =>
    cases supplied : capabilities.conditions with
    | none => simp [find, supplied] at known
    | some values => simp only [find, supplied, refines.conditions values supplied]
  | resource id =>
    cases supplied : capabilities.resources with
    | none => simp [find, supplied] at known
    | some view =>
      obtain ⟨view', supplied', -, remains⟩ := refines.resources view supplied
      have settled : view.availability id ≠ .pending := by
        intro pending
        simp [find, supplied, pending] at known
      simp only [find, supplied, supplied', remains id settled]

theorem extend (refines : capabilities.Refines capabilities') :
  capabilities.Extends capabilities'
  := by
  intro d known
  apply agree_of_find (refines.find_eq known)
  intro view view' supplied supplied'
  obtain ⟨_, remains, projected, -⟩ := refines.resources view supplied
  rw [remains] at supplied'
  cases supplied'
  exact projected

end Capabilities.Refines

/-- An outcome persists in another one, which is obtained when more is available. -/
structure Template.Persists (outcome outcome' : Except EvaluationError Resolution) : Prop where
  /-- It remains a failure. -/
  failed : ∀ error, outcome = .error error → ∃ error', outcome' = .error error'
  /-- A resolution that misses nothing remains the same. -/
  settled : ∀ resolution, outcome = .ok resolution → resolution.unresolved = [] → outcome' = .ok resolution
  /-- What was resolved is resolved again, -/
  resolved : ∀ resolution resolution', outcome = .ok resolution → outcome' = .ok resolution' →
    ∀ d ∈ resolution.resolved, d ∈ resolution'.resolved
  /-- and what was recorded at all is recorded again. -/
  recorded : ∀ resolution resolution', outcome = .ok resolution → outcome' = .ok resolution' →
    ∀ d, d ∈ resolution.resolved ∨ d ∈ resolution.unresolved →
      d ∈ resolution'.resolved ∨ d ∈ resolution'.unresolved

/-- The outcome of an evaluation persists when more becomes available. -/
theorem Template.persists_of_refines (template : Template) {capabilities capabilities' : Capabilities}
    (refines : capabilities.Refines capabilities') (expression : Expression) :
  Persists (template.evaluate capabilities expression) (template.evaluate capabilities' expression)
  := by
  have extend := refines.extend
  constructor
  · intro error failed
    apply template.exists_error_of_extends extend failed
  · intro resolution evaluated settled
    apply template.evaluate_of_extends extend evaluated settled
  · intro resolution resolution' evaluated evaluated' d hd
    obtain ⟨finding, found⟩ := (template.find_of_evaluate evaluated).1 d hd
    have known : capabilities.find d ≠ .ok none := by simp [found]
    obtain again | unresolved := template.mem_of_extends extend evaluated evaluated' (.inl hd)
    · exact again
    · have missing := (template.find_of_evaluate evaluated').2 d unresolved
      rw [refines.find_eq known] at missing
      exact absurd missing known
  · intro resolution resolution' evaluated evaluated' d
    apply template.mem_of_extends extend evaluated evaluated'

/-- A bundle with conditions, by which that resource is available. -/
def Capabilities.late : Capabilities where
  parameters := some fun _ => some (.string "name")
  conditions := some fun _ => .ok true
  resources := some (.ofBase (.available { type := "T", attributes := .ofList [("Arn", .string "arn")] }))

theorem Capabilities.refines_early :
  early.Refines late
  := by
  constructor
  · rintro _ ⟨⟩
    rfl
  · nofun
  · nofun
  · rintro _ ⟨⟩
    refine ⟨_, rfl, rfl, ?_⟩
    intro id settled
    simp only [ResourceView.ofBase] at settled ⊢
    split
    · simp at settled
    · rfl
    · rfl

theorem Template.evaluate_late :
  twofold.evaluate .late .mixed
    = .ok ⟨some (.list [.string "name", .string "arn", .string "side"]),
        [.parameter "Name", .condition "Live", .resource "Base", .resource "Side"], []⟩
  := by
  apply twofold.evaluate_eq_ok.mpr
  refine ⟨.ready _, ⟨[.parameter "Name", .condition "Live", .resource "Base", .resource "Side"], []⟩, rfl, ?_⟩
  rw [arranged_eq_self (by decide) (by decide), arranged_eq_nil.mpr rfl]
  rfl

/-- What the example resolves to persists, and has a value in the end. -/
theorem Template.persists_early :
  Capabilities.early.Refines .late
    ∧ Persists (twofold.evaluate .early .mixed) (twofold.evaluate .late .mixed)
    ∧ twofold.evaluate .late .mixed
        = .ok ⟨some (.list [.string "name", .string "arn", .string "side"]),
            [.parameter "Name", .condition "Live", .resource "Base", .resource "Side"], []⟩
  := by
  refine ⟨Capabilities.refines_early, ?_, evaluate_late⟩
  apply persists_of_refines twofold Capabilities.refines_early

end Reconcile
