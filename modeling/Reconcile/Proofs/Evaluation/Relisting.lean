import Mathlib.Tactic.Common
import Reconcile.Inputs.Validation
import Reconcile.Plan.Basic
import Reconcile.Proofs.Graph.Cycles
import Reconcile.Proofs.Graph.Edges

/-!
# Templates that list their resources in another order

Of its template an evaluation reads the parameters, the mappings and which names are those of
resources.  So the order in which a template lists its resources matters to no evaluation, to no
validation of inputs, and not to whether there is a dependency graph without cycles.
-/

namespace Reconcile.Template

/-- What an evaluation reads of a template is the same in two templates. -/
structure Alike (template other : Template) : Prop where
  parameters : other.parameters = template.parameters
  mappings : other.mappings = template.mappings
  isResource : other.isResource = template.isResource

/-- A template is another one, but for the order in which it lists the resources. -/
structure Relists (template other : Template) : Prop where
  rest : other = { template with resources := other.resources }
  resources : template.resources.entries.Perm other.resources.entries

/-! ### Evaluations -/

namespace Alike

variable {template other : Template}

section

variable (alike : template.Alike other)

include alike

theorem isParameter :
  other.isParameter = template.isParameter
  := by
  funext name
  unfold Template.isParameter
  rw [alike.parameters]

theorem parametersOfType :
  other.parametersOfType = template.parametersOfType
  := by
  funext type
  unfold Template.parametersOfType
  rw [alike.parameters]

theorem findInMap :
  other.findInMap = template.findInMap
  := by
  funext map top second
  unfold Template.findInMap
  rw [alike.mappings]

theorem evalRef (capabilities : Capabilities) :
  other.evalRef capabilities = template.evalRef capabilities
  := by
  funext name
  unfold Template.evalRef
  rw [alike.isParameter, alike.isResource]

theorem evalGetAtt (capabilities : Capabilities) :
  other.evalGetAtt capabilities = template.evalGetAtt capabilities
  := by
  funext logicalId attr
  unfold Template.evalGetAtt
  rw [alike.isResource]

theorem evalPlaceholder (capabilities : Capabilities) :
  other.evalPlaceholder capabilities = template.evalPlaceholder capabilities
  := by
  funext name
  unfold Template.evalPlaceholder
  rw [alike.isParameter, alike.isResource, alike.evalRef, alike.evalGetAtt]

theorem evalSegments (capabilities : Capabilities) (bound : String → Option (Evaluation Slot))
    (segments : List Segment) :
  other.evalSegments capabilities bound segments = template.evalSegments capabilities bound segments
  := by
  induction segments with
  | nil => rfl
  | cons segment rest ih =>
    cases segment with
    | literal text => simp only [Template.evalSegments, ih]
    | placeholder name => simp only [Template.evalSegments, alike.evalPlaceholder, ih]

theorem evalRefs (capabilities : Capabilities) (names : List String) :
  other.evalRefs capabilities names = template.evalRefs capabilities names
  := by
  induction names with
  | nil => rfl
  | cons name rest ih => simp only [Template.evalRefs, alike.evalRef, ih]

theorem evalZones (capabilities : Capabilities) :
  other.evalZones capabilities = template.evalZones capabilities
  := by
  funext region
  unfold Template.evalZones
  rw [alike.evalRef]

end

mutual

theorem eval (alike : template.Alike other) (capabilities : Capabilities) (expression : Expression) :
  other.eval capabilities expression = template.eval capabilities expression
  := by
  cases expression with
  | null | bool | number | string | condition => simp only [Template.eval]
  | list items => simp only [Template.eval, alike.evalItems capabilities items]
  | object fields => simp only [Template.eval, alike.evalFields capabilities fields]
  | ref name => simp only [Template.eval, alike.evalRef]
  | getAtt logicalId attr => simp only [Template.eval, alike.evalGetAtt]
  | sub text bound => simp only [Template.eval, alike.evalSegments, alike.evalVariable capabilities bound]
  | refAll type => simp only [Template.eval, alike.parametersOfType, alike.evalRefs]
  | ifNamed name holds otherwise =>
    simp only [Template.eval, alike.eval capabilities holds, alike.eval capabilities otherwise]
  | ifValue test holds otherwise =>
    simp only [Template.eval, alike.eval capabilities test, alike.eval capabilities holds,
      alike.eval capabilities otherwise]
  | getAZs region => simp only [Template.eval, alike.eval capabilities region, alike.evalZones]
  | findInMap map top second =>
    simp only [Template.eval, alike.eval capabilities map, alike.eval capabilities top,
      alike.eval capabilities second, alike.findInMap]
  | unary function argument => simp only [Template.eval, alike.eval capabilities argument]
  | binary function first second =>
    simp only [Template.eval, alike.eval capabilities first, alike.eval capabilities second]
  | junction connective operands => simp only [Template.eval, alike.evalOperands capabilities connective operands]

theorem evalItems (alike : template.Alike other) (capabilities : Capabilities) (items : List Expression) :
  other.evalItems capabilities items = template.evalItems capabilities items
  := by
  cases items with
  | nil => simp only [Template.evalItems]
  | cons item rest =>
    simp only [Template.evalItems, alike.eval capabilities item, alike.evalItems capabilities rest]

theorem evalFields (alike : template.Alike other) (capabilities : Capabilities)
    (fields : List (String × Expression)) :
  other.evalFields capabilities fields = template.evalFields capabilities fields
  := by
  match fields with
  | [] => simp only [Template.evalFields]
  | (key, value) :: rest =>
    simp only [Template.evalFields, alike.eval capabilities value, alike.evalFields capabilities rest]

theorem evalVariable (alike : template.Alike other) (capabilities : Capabilities)
    (bound : List (String × Expression)) (name : String) :
  other.evalVariable capabilities name bound = template.evalVariable capabilities name bound
  := by
  match bound with
  | [] => simp only [Template.evalVariable]
  | (key, value) :: rest =>
    simp only [Template.evalVariable, alike.eval capabilities value, alike.evalVariable capabilities rest name]

theorem evalOperands (alike : template.Alike other) (capabilities : Capabilities) (connective : Junction)
    (operands : List Expression) :
  other.evalOperands capabilities connective operands = template.evalOperands capabilities connective operands
  := by
  cases operands with
  | nil => simp only [Template.evalOperands]
  | cons operand rest =>
    simp only [Template.evalOperands, alike.eval capabilities operand,
      alike.evalOperands capabilities connective rest]

end

theorem evaluate (alike : template.Alike other) :
  other.evaluate = template.evaluate
  := by
  funext capabilities expression
  unfold Template.evaluate
  rw [alike.eval]

/-- The value of a condition is the same in templates that are alike and declare the same conditions. -/
theorem conditionValue (alike : template.Alike other)
    (conditions : ∀ name, other.conditions.get? name = template.conditions.get? name) (capabilities : Capabilities)
    (depth : Nat) (visiting : List String) (name : String) :
  other.conditionValue capabilities depth visiting name = template.conditionValue capabilities depth visiting name
  := by
  induction depth generalizing visiting name with
  | zero => rfl
  | succ depth ih =>
    have deeper : other.conditionValue capabilities depth (name :: visiting)
        = template.conditionValue capabilities depth (name :: visiting) := funext (ih (name :: visiting))
    unfold Template.conditionValue
    rw [conditions, alike.evaluate, deeper]

end Alike

/-! ### Another order of resources -/

namespace Relists

variable {template other : Template} (relists : template.Relists other)

include relists

theorem symm :
  other.Relists template
  := by
  refine ⟨?_, relists.resources.symm⟩
  rw [relists.rest]

theorem get?_eq (id : String) :
  other.resources.get? id = template.resources.get? id
  := by
  apply Option.ext
  intro resource
  rw [Table.get?_eq_some_iff, Table.get?_eq_some_iff, relists.resources.mem_iff]

theorem mem_names {id : String} :
  id ∈ other.resources.names ↔ id ∈ template.resources.names
  := by
  rw [← Table.exists_get?_iff, relists.get?_eq, Table.exists_get?_iff]

theorem alike :
  template.Alike other
  := by
  constructor
  · rw [relists.rest]
  · rw [relists.rest]
  · funext name
    rw [isResource, Table.contains, relists.get?_eq]
    rfl

theorem outputs :
  other.outputs = template.outputs
  := by rw [relists.rest]

theorem isExcluded :
  other.isExcluded = template.isExcluded
  := by
  funext conditions id
  unfold Template.isExcluded
  rw [relists.get?_eq]

/-! ### Inputs -/

theorem conditionValue (capabilities : Capabilities) (depth : Nat) (visiting : List String) (name : String) :
  other.conditionValue capabilities depth visiting name = template.conditionValue capabilities depth visiting name
  := by
  apply relists.alike.conditionValue
  intro name
  rw [relists.rest]

theorem conditionValues (parameters pseudoParameters : String → Option Json) :
  other.conditionValues parameters pseudoParameters = template.conditionValues parameters pseudoParameters
  := by
  have conditions : other.conditions = template.conditions := by rw [relists.rest]
  unfold Template.conditionValues
  simp only [conditions, relists.conditionValue]

theorem checkRule (capabilities : Capabilities) (name : String) (rule : Rule) :
  other.checkRule capabilities name rule = template.checkRule capabilities name rule
  := by
  have assertedValue : other.assertedValue = template.assertedValue := by
    funext capabilities expression
    unfold Template.assertedValue
    rw [relists.alike.evaluate]
  have checkAssertions (number : Nat) (assertions : List Assertion) :
      other.checkAssertions capabilities name number assertions
        = template.checkAssertions capabilities name number assertions := by
    induction assertions generalizing number with
    | nil => rfl
    | cons assertion rest ih => simp only [Template.checkAssertions, assertedValue, ih]
  unfold Template.checkRule
  rw [assertedValue, checkAssertions]

theorem validateInputs (parameters : Table String) (config : Config) :
  other.validateInputs parameters config = template.validateInputs parameters config
  := by
  have rules : other.rules = template.rules := by rw [relists.rest]
  unfold Template.validateInputs
  simp only [relists.alike.parameters, relists.conditionValues, rules, relists.checkRule]

/-! ### Graphs -/

theorem targets (resource : Resource) :
  other.targets resource = template.targets resource
  := by
  unfold Template.targets
  rw [relists.alike.isParameter]

/-- When there is a dependency graph of one template, there is one of the other, with the same edges. -/
theorem exists_graph {graph : Graph} (built : template.graph = .ok graph) :
  ∃ graph', other.graph = .ok graph' ∧ ∀ source target, graph'.Edge source target ↔ graph.Edge source target
  := by
  obtain ⟨graph', built'⟩ : ∃ graph', other.graph = .ok graph' := by
    apply Template.exists_graph
    intro id resource declared target targeted
    rw [relists.get?_eq] at declared
    rw [relists.targets] at targeted
    rw [relists.alike.isResource]
    exact template.isResource_of_mem_targets built declared targeted
  refine ⟨graph', built', fun source target => ?_⟩
  rw [Graph.Edge, Graph.Edge, other.mem_edges_graph built', template.mem_edges_graph built]
  simp only [relists.get?_eq, relists.targets]

theorem exists_acyclicGraph {graph : Graph} (built : template.acyclicGraph = .ok graph) :
  ∃ graph', other.acyclicGraph = .ok graph'
  := by
  obtain ⟨built, acyclic⟩ := acyclicGraph_eq_ok.mp built
  obtain ⟨graph', built', same⟩ := relists.exists_graph built
  refine ⟨graph', acyclicGraph_eq_ok.mpr ⟨built', ?_⟩⟩
  apply List.eq_nil_iff_forall_not_mem.mpr
  intro node cyclic
  have edges : graph'.Edge = graph.Edge := funext₂ fun source target => propext (same source target)
  rw [Graph.mem_cyclicNodes, Graph.Reaches, edges, ← Graph.Reaches, ← Graph.mem_cyclicNodes, acyclic] at cyclic
  cases cyclic

end Relists

end Reconcile.Template
