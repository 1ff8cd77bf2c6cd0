import Mathlib.Tactic.Common
import Reconcile.Proofs.Evaluation.Growth

/-!
# What an evaluation can see of a resource

An evaluation sees the type, the physical id and the attributes of a resource, and not the
properties that it was made with.  So two evaluations of one expression that realize a value
realize the same, if what is available to both looks the same to them: neither has asked for
anything that the other does not know.
-/

namespace Reconcile

/-- What can be seen of a physical resource. -/
def PhysicalResource.exposed (resource : PhysicalResource) : PhysicalResource :=
  { resource with inputProperties := .null, propertiesHash := none }

/-- What can be seen of the available resources. -/
def ResourceView.exposed (view : ResourceView) : ResourceView where
  availability logicalId :=
    match view.availability logicalId with
    | .available resource => .available resource.exposed
    | .pending => .pending
    | .excluded => .excluded
  refAttribute := view.refAttribute

/-- What can be seen through a bundle of capabilities. -/
def Capabilities.exposed (capabilities : Capabilities) : Capabilities :=
  { capabilities with resources := capabilities.resources.map ResourceView.exposed }

namespace Template

variable (template : Template) (capabilities : Capabilities)

/-! ### Evaluations depend on what can be seen -/

theorem evalResource_exposed (logicalId : String) :
  evalResource capabilities.exposed logicalId
    = (evalResource capabilities logicalId).andThen fun found => .result (found.map PhysicalResource.exposed)
  := by
  unfold evalResource Capabilities.exposed
  cases capabilities.resources with
  | none => rfl
  | some view =>
    simp only [Option.map_some, ResourceView.exposed]
    cases view.availability logicalId with
    | available resource => rfl
    | pending => rfl
    | excluded => rfl

theorem refValue_exposed (resource : PhysicalResource) :
  refValue capabilities.exposed resource.exposed = refValue capabilities resource
  := by
  unfold refValue Capabilities.exposed
  cases capabilities.resources with
  | none => rfl
  | some view => rfl

theorem evalRef_exposed (name : String) :
  template.evalRef capabilities.exposed name = template.evalRef capabilities name
  := by
  unfold evalRef
  simp only [Evaluation.bind_eq, evalResource_exposed, Evaluation.andThen_assoc, Evaluation.result_andThen]
  congr 3
  · congr 2
    funext found
    cases found with
    | none => rfl
    | some resource => simp [refValue_exposed]

theorem evalGetAtt_exposed (logicalId attr : String) :
  template.evalGetAtt capabilities.exposed logicalId attr = template.evalGetAtt capabilities logicalId attr
  := by
  unfold evalGetAtt
  simp only [Evaluation.bind_eq, evalResource_exposed, Evaluation.andThen_assoc, Evaluation.result_andThen]
  congr 2
  funext found
  cases found with
  | none => rfl
  | some resource => rfl

theorem evalPlaceholder_exposed (name : String) :
  template.evalPlaceholder capabilities.exposed name = template.evalPlaceholder capabilities name
  := by
  unfold evalPlaceholder
  simp only [evalRef_exposed, evalGetAtt_exposed]

theorem evalSegments_exposed (bound : String → Option (Evaluation Slot)) (segments : List Segment) :
  template.evalSegments capabilities.exposed bound segments = template.evalSegments capabilities bound segments
  := by
  induction segments with
  | nil => rfl
  | cons segment rest ih =>
    cases segment with
    | literal text => simp only [evalSegments, ih]
    | placeholder name => simp only [evalSegments, evalPlaceholder_exposed, ih]

theorem evalRefs_exposed (names : List String) :
  template.evalRefs capabilities.exposed names = template.evalRefs capabilities names
  := by
  induction names with
  | nil => rfl
  | cons name rest ih => simp only [evalRefs, evalRef_exposed, ih]

theorem evalZones_exposed (region : Json) :
  template.evalZones capabilities.exposed region = template.evalZones capabilities region
  := by
  unfold evalZones
  simp only [evalRef_exposed]

theorem evalCondition_exposed (name : String) :
  evalCondition capabilities.exposed name = evalCondition capabilities name
  := rfl

mutual

theorem eval_exposed (expression : Expression) :
  template.eval capabilities.exposed expression = template.eval capabilities expression
  := by
  cases expression with
  | null | bool | number | string => simp only [eval]
  | list items => simp only [eval, evalItems_exposed items]
  | object fields => simp only [eval, evalFields_exposed fields]
  | ref name => simp only [eval, evalRef_exposed]
  | getAtt logicalId attr => simp only [eval, evalGetAtt_exposed]
  | sub text bound => simp only [eval, evalSegments_exposed, evalVariable_exposed bound]
  | refAll type => simp only [eval, evalRefs_exposed]
  | condition name => simp only [eval, evalCondition_exposed]
  | ifNamed name holds otherwise =>
    simp only [eval, evalCondition_exposed, eval_exposed holds, eval_exposed otherwise]
  | ifValue test holds otherwise =>
    simp only [eval, eval_exposed test, eval_exposed holds, eval_exposed otherwise]
  | getAZs region => simp only [eval, eval_exposed region, evalZones_exposed]
  | findInMap map top second =>
    simp only [eval, eval_exposed map, eval_exposed top, eval_exposed second]
  | unary function argument => simp only [eval, eval_exposed argument]
  | binary function first second => simp only [eval, eval_exposed first, eval_exposed second]
  | junction connective operands => simp only [eval, evalOperands_exposed connective operands]

theorem evalItems_exposed (items : List Expression) :
  template.evalItems capabilities.exposed items = template.evalItems capabilities items
  := by
  cases items with
  | nil => simp only [evalItems]
  | cons item rest => simp only [evalItems, eval_exposed item, evalItems_exposed rest]

theorem evalFields_exposed (fields : List (String × Expression)) :
  template.evalFields capabilities.exposed fields = template.evalFields capabilities fields
  := by
  match fields with
  | [] => simp only [evalFields]
  | (key, value) :: rest => simp only [evalFields, eval_exposed value, evalFields_exposed rest]

theorem evalVariable_exposed (bound : List (String × Expression)) (name : String) :
  template.evalVariable capabilities.exposed name bound = template.evalVariable capabilities name bound
  := by
  match bound with
  | [] => simp only [evalVariable]
  | (key, value) :: rest => simp only [evalVariable, eval_exposed value, evalVariable_exposed rest name]

theorem evalOperands_exposed (connective : Junction) (operands : List Expression) :
  template.evalOperands capabilities.exposed connective operands
    = template.evalOperands capabilities connective operands
  := by
  cases operands with
  | nil => simp only [evalOperands]
  | cons operand rest =>
    simp only [evalOperands, eval_exposed operand, evalOperands_exposed connective rest]

end

theorem evaluate_exposed (expression : Expression) :
  template.evaluate capabilities.exposed expression = template.evaluate capabilities expression
  := by
  unfold evaluate
  rw [eval_exposed]

end Template

/-! ### Realized values -/

namespace ResourceView

/-- What looks available in two views. -/
def common (first second : ResourceView) : ResourceView where
  availability logicalId :=
    match first.availability logicalId, second.availability logicalId with
    | .available resource, .available _ => .available resource.exposed
    | _, _ => .pending
  refAttribute := first.refAttribute

variable {base : Capabilities} {first second : ResourceView}

theorem common_eq_available {id : String} {resource : PhysicalResource} :
  (first.common second).availability id = .available resource
    ↔ ∃ known known', first.availability id = .available known ∧ second.availability id = .available known'
        ∧ known.exposed = resource
  := by
  unfold common
  dsimp only
  split
  · next known known' hf hs => simp [hf, hs]
  · next apart =>
    simp only [reduceCtorEq, false_iff, not_exists]
    rintro known known' ⟨hf, hs, -⟩
    apply apart known known' hf hs

/-- What was found in both views looks available in both. -/
theorem find_common {dependency : Dependency} {finding finding' : Finding}
    (found : { base with resources := some first }.exposed.find dependency = .ok (some finding))
    (found' : { base with resources := some second }.exposed.find dependency = .ok (some finding')) :
  { base with resources := some (first.common second) }.find dependency ≠ .ok none
  := by
  cases dependency with
  | resource id =>
    simp only [Capabilities.find, Capabilities.exposed, Option.map_some, exposed] at found found' ⊢
    cases hf : first.availability id with
    | available known =>
      cases hs : second.availability id with
      | available known' =>
        rw [common_eq_available.mpr ⟨known, known', hf, hs, rfl⟩]
        intro missed
        cases missed
      | _ => simp [hs] at found'
    | _ => simp [hf] at found
  | _ =>
    intro missed
    cases found.symm.trans missed

/-- A view says of a resource that it looks available only if it does so in another. -/
theorem extends_exposed {less : ResourceView} (refs : first.refAttribute = less.refAttribute)
    (included : ∀ id, less.availability id ≠ .excluded)
    (known : ∀ id resource, less.availability id = .available resource →
      ∃ known, first.availability id = .available known ∧ known.exposed = resource) :
  { base with resources := some less }.Extends { base with resources := some first }.exposed
  := by
  have refValue (resource : PhysicalResource) :
      Template.refValue { base with resources := some first }.exposed resource
        = Template.refValue { base with resources := some less } resource := by
    simp only [Template.refValue, Capabilities.exposed, Option.map_some, exposed, Option.bind_some, refs]
  intro dependency found
  refine ⟨?_, fun resource _ => refValue resource⟩
  cases dependency with
  | resource id =>
    simp only [Capabilities.find, Capabilities.exposed, Option.map_some, exposed] at found ⊢
    cases hl : less.availability id with
    | available resource =>
      obtain ⟨known, hf, rfl⟩ := known id resource hl
      rw [hf]
    | pending =>
      rw [hl] at found
      exact absurd rfl found
    | excluded => exact absurd hl (included id)
  | _ => rfl

end ResourceView

namespace Template

variable {template : Template} {base : Capabilities} {first second : ResourceView} {expression : Expression}
  {resolution resolution' : Resolution} {value value' : Json}

/-- Two evaluations realize the same value when what is available to both looks the same. -/
theorem realize_unique (refs : second.refAttribute = first.refAttribute)
    (alike : ∀ id known known', first.availability id = .available known →
      second.availability id = .available known' → known'.exposed = known.exposed)
    (evaluated : template.evaluate { base with resources := some first } expression = .ok resolution)
    (realized : resolution.realize = .ok value)
    (evaluated' : template.evaluate { base with resources := some second } expression = .ok resolution')
    (realized' : resolution'.realize = .ok value') :
  value' = value
  := by
  let less : Capabilities := { base with resources := some (first.common second) }
  have included (id : String) : (first.common second).availability id ≠ .excluded := by
    unfold ResourceView.common
    dsimp only
    split
    · nofun
    · nofun
  have extends₁ : less.Extends { base with resources := some first }.exposed := by
    apply ResourceView.extends_exposed
    · rfl
    · apply included
    · intro id resource common
      obtain ⟨known, known', hf, hs, he⟩ := ResourceView.common_eq_available.mp common
      exact ⟨known, hf, he⟩
  have extends₂ : less.Extends { base with resources := some second }.exposed := by
    apply ResourceView.extends_exposed
    · apply refs
    · apply included
    · intro id resource common
      obtain ⟨known, known', hf, hs, he⟩ := ResourceView.common_eq_available.mp common
      exact ⟨known', hs, (alike id known known' hf hs).trans he⟩
  rw [← evaluate_exposed] at evaluated evaluated'
  obtain ⟨hv, resolved⟩ := Resolution.realize_eq_ok.mp realized
  obtain ⟨hv', resolved'⟩ := Resolution.realize_eq_ok.mp realized'
  match he : template.evaluate less expression with
  | .error error =>
    obtain ⟨error', failed⟩ := template.exists_error_of_extends extends₁ he
    cases failed.symm.trans evaluated
  | .ok resolution'' =>
    -- Whatever is asked for is available to both, so it has been found.
    have resolved'' : resolution''.unresolved = [] := by
      apply List.eq_nil_iff_forall_not_mem.mpr
      intro d hd
      have missed := (template.find_of_evaluate he).2 d hd
      have sought := template.mem_of_extends extends₁ he evaluated (.inr hd)
      have sought' := template.mem_of_extends extends₂ he evaluated' (.inr hd)
      simp only [resolved, resolved', List.not_mem_nil, or_false] at sought sought'
      obtain ⟨finding, found⟩ := (template.find_of_evaluate evaluated).1 d sought
      obtain ⟨finding', found'⟩ := (template.find_of_evaluate evaluated').1 d sought'
      apply ResourceView.find_common found found' missed
    have same := template.evaluate_of_extends extends₁ he resolved''
    have same' := template.evaluate_of_extends extends₂ he resolved''
    obtain rfl := Except.ok.inj (evaluated.symm.trans same)
    obtain rfl := Except.ok.inj (evaluated'.symm.trans same')
    exact Option.some.inj (hv'.symm.trans hv)

end Template

end Reconcile
