import Reconcile.Evaluation.Evaluate

/-!
# Inquiries

All that an evaluation learns from a bundle of capabilities it learns by asking for
dependencies.  `Capabilities.find` is what a bundle says of a dependency, and
`Capabilities.inquire` is the computation that asks for one: it fails when the dependency can
never be had, and it leaves the dependency in the footprint, resolved or unresolved, otherwise.
References, attributes and conditions are inquiries whose findings are looked at.
-/

namespace Reconcile

namespace Evaluation

variable {α β : Type}

@[simp]
theorem pure_eq (a : α) :
  (pure a : Evaluation α) = result a
  := rfl

@[simp]
theorem bind_eq (first : Evaluation α) (next : α → Evaluation β) :
  first >>= next = first.andThen next
  := rfl

@[simp]
theorem result_andThen (a : α) (next : α → Evaluation β) :
  (result a).andThen next = next a
  := by
  match h : next a with
  | .failed error => simp only [result, andThen, h]
  | .ended b footprint =>
    simp only [result, andThen, h]
    rfl

/-- The result of a computation that has ended is passed on. -/
theorem ended_andThen (a : α) (footprint : Footprint) (next : α → Evaluation β) :
  (ended a footprint).andThen next = (ended () footprint).andThen fun _ => next a
  := rfl

/-- A computation ends when both of its parts do, and its footprint is theirs. -/
theorem andThen_eq_ended {first : Evaluation α} {next : α → Evaluation β} {b : β} {footprint : Footprint} :
  first.andThen next = .ended b footprint
    ↔ ∃ a before after, first = .ended a before ∧ next a = .ended b after
        ∧ footprint = before.append after
  := by
  constructor
  · intro h
    match first with
    | .failed error => cases h
    | .ended a before =>
      match hn : next a with
      | .failed error => simp [andThen, hn] at h
      | .ended b' after =>
        simp only [andThen, hn, ended.injEq] at h
        obtain ⟨rfl, rfl⟩ := h
        exact ⟨a, before, after, rfl, hn, rfl⟩
  · rintro ⟨a, before, after, rfl, hn, rfl⟩
    simp only [andThen, hn]

/-- A computation fails when its first part does, or the second does on the result of the first. -/
theorem andThen_eq_failed {first : Evaluation α} {next : α → Evaluation β} {error : EvaluationError} :
  first.andThen next = .failed error
    ↔ first = .failed error ∨ ∃ a before, first = .ended a before ∧ next a = .failed error
  := by
  match first with
  | .failed error' => simp [andThen]
  | .ended a before =>
    match hn : next a with
    | .failed error' => simp [andThen, hn]
    | .ended b after => simp [andThen, hn]

theorem lift_eq_ended {outcome : Except EvaluationError α} {a : α} {footprint : Footprint} :
  lift outcome = .ended a footprint ↔ outcome = .ok a ∧ footprint = {}
  := by
  cases outcome with
  | error error => simp [lift]
  | ok a' => simp [lift, result, eq_comm]

end Evaluation

/-- What is known of a dependency that is available. -/
inductive Finding where
  | value (value : Json)
  | truth (holds : Bool)
  | resource (resource : PhysicalResource)

namespace Finding

/-- The resource that was found. -/
def resource? : Finding → Option PhysicalResource
  | .resource found => some found
  | _ => none

/-- The truth value that was found. -/
def truth? : Finding → Option Bool
  | .truth found => some found
  | _ => none

end Finding

namespace Capabilities

/-- What a bundle of capabilities says of a dependency; nothing while it is not available. -/
def find (capabilities : Capabilities) : Dependency → Except EvaluationError (Option Finding)
  | .parameter name =>
    match capabilities.parameters with
    | none => .ok none
    | some values =>
      match values name with
      | some value => .ok (some (.value value))
      | none => .error (.missingParameterValue name)
  | .pseudoParameter name =>
    match capabilities.pseudoParameters with
    | none => .ok none
    | some values =>
      match values name with
      | some value => .ok (some (.value value))
      | none => .error (.unknownPseudoParameter name)
  | .condition name =>
    match capabilities.conditions with
    | none => .ok none
    | some values => (values name).map fun holds => some (.truth holds)
  | .resource logicalId =>
    match capabilities.resources with
    | none => .ok none
    | some view =>
      match view.availability logicalId with
      | .available resource => .ok (some (.resource resource))
      | .pending => .ok none
      | .excluded => .error (.resourceExcluded logicalId)

/-- Ask for a dependency. -/
def inquire (capabilities : Capabilities) (dependency : Dependency) : Evaluation (Option Finding) :=
  match capabilities.find dependency with
  | .error error => .failed error
  | .ok none => .waiting dependency none
  | .ok (some finding) => .depending dependency (some finding)

/-- The slot of a reference, from what was found. -/
def slotOf (capabilities : Capabilities) : Option Finding → Slot
  | none => .pending
  | some (.value value) => .ready value
  | some (.truth holds) => .ready (.bool holds)
  | some (.resource resource) => .ready (Template.refValue capabilities resource)

/-- Two bundles say the same of a dependency, and the same of a reference to it. -/
def Agree (capabilities capabilities' : Capabilities) (dependency : Dependency) : Prop :=
  capabilities'.find dependency = capabilities.find dependency
    ∧ ∀ resource, capabilities.find dependency = .ok (some (.resource resource)) →
        Template.refValue capabilities' resource = Template.refValue capabilities resource

theorem slotOf_eq {capabilities capabilities' : Capabilities} {dependency : Dependency}
    (agree : capabilities.Agree capabilities' dependency) {finding : Option Finding}
    (h : capabilities.find dependency = .ok finding) :
  capabilities'.slotOf finding = capabilities.slotOf finding
  := by
  match finding with
  | none => rfl
  | some (.value _) => rfl
  | some (.truth _) => rfl
  | some (.resource resource) => simp only [slotOf, agree.2 resource h]

theorem inquire_eq_ended {capabilities : Capabilities} {dependency : Dependency}
    {finding : Option Finding} {footprint : Footprint} :
  capabilities.inquire dependency = .ended finding footprint
    ↔ capabilities.find dependency = .ok finding
        ∧ footprint = if finding.isSome then ⟨[dependency], []⟩ else ⟨[], [dependency]⟩
  := by
  unfold inquire
  match capabilities.find dependency with
  | .error error => simp
  | .ok none => cases finding <;> simp [Evaluation.waiting, eq_comm]
  | .ok (some found) =>
    cases finding with
    | none => simp [Evaluation.depending]
    | some finding => simp [Evaluation.depending, eq_comm]

end Capabilities

namespace Template

variable (template : Template) (capabilities : Capabilities)

/-- The dependency that a reference to a name asks for. -/
def dependencyOf? (name : String) : Option Dependency :=
  if isPseudoParameter name then some (.pseudoParameter name)
  else if template.isParameter name then some (.parameter name)
  else if template.isResource name then some (.resource name)
  else none

theorem evalResource_eq (logicalId : String) :
  evalResource capabilities logicalId
    = (capabilities.inquire (.resource logicalId)).andThen
        fun finding => .result (finding.bind Finding.resource?)
  := by
  unfold evalResource Capabilities.inquire Capabilities.find
  match capabilities.resources with
  | none => rfl
  | some view =>
    dsimp only
    match view.availability logicalId with
    | .available resource => rfl
    | .pending => rfl
    | .excluded => rfl

theorem evalCondition_eq (name : String) :
  evalCondition capabilities name
    = (capabilities.inquire (.condition name)).andThen
        fun finding => .result (finding.bind Finding.truth?)
  := by
  unfold evalCondition Capabilities.inquire Capabilities.find
  match capabilities.conditions with
  | none => rfl
  | some values =>
    dsimp only
    match values name with
    | .ok holds => rfl
    | .error error => rfl

theorem evalGetAtt_eq (logicalId attr : String) :
  template.evalGetAtt capabilities logicalId attr
    = if template.isResource logicalId then
        (capabilities.inquire (.resource logicalId)).andThen fun finding =>
          match finding.bind Finding.resource? with
          | none => .result .pending
          | some resource =>
            match resource.attribute? attr with
            | some value => .result (.ready value)
            | none => .failed (.missingAttribute logicalId attr)
      else .failed (.unknownReference logicalId)
  := by
  unfold evalGetAtt
  rw [evalResource_eq]
  split
  · unfold Capabilities.inquire
    match capabilities.find (.resource logicalId) with
    | .error error => rfl
    | .ok none => rfl
    | .ok (some finding) => rfl
  · rfl

/-- A reference to a name that means anything asks for one dependency, unless it stands for no value. -/
theorem evalRef_eq (name : String) :
  template.evalRef capabilities name
    = if name = "AWS::NoValue" then .result .noValue
      else
        match template.dependencyOf? name with
        | some dependency =>
          (capabilities.inquire dependency).andThen fun finding => .result (capabilities.slotOf finding)
        | none => .failed (.unknownReference name)
  := by
  unfold evalRef dependencyOf?
  split
  · rfl
  split
  · unfold Capabilities.inquire Capabilities.find
    match capabilities.pseudoParameters with
    | none => rfl
    | some values =>
      dsimp only
      match values name with
      | some value => rfl
      | none => rfl
  split
  · unfold Capabilities.inquire Capabilities.find
    match capabilities.parameters with
    | none => rfl
    | some values =>
      dsimp only
      match values name with
      | some value => rfl
      | none => rfl
  split
  · rw [evalResource_eq]
    unfold Capabilities.inquire Capabilities.find
    match capabilities.resources with
    | none => rfl
    | some view =>
      dsimp only
      match view.availability name with
      | .available resource => rfl
      | .pending => rfl
      | .excluded => rfl
  · rfl

theorem evalVariable_eq (name : String) (bound : List (String × Expression)) :
  template.evalVariable capabilities name bound = (lookup name bound).map (template.eval capabilities)
  := by
  induction bound with
  | nil => rfl
  | cons field rest ih =>
    obtain ⟨key, value⟩ := field
    by_cases h : key = name
    · simp [evalVariable, lookup, h]
    · simp [evalVariable, lookup, h, ih]

end Template

end Reconcile
