import Mathlib
import Reconcile.Proofs.Stack.Completion

/-!
# Rejected updates

Before an update touches any resource the dependency graph of the template is built, the supplied
parameters are validated, the conditions are evaluated and the rules are checked.  An error of one
of these checks leaves everything as it was.  It counts as raised before the run, unless a
condition has no truth value: that error has the shape of a failure of a resource.
-/

namespace Reconcile

variable {σ : Type}

/-- A check that comes before the run of an update. -/
inductive Check where
  | graph
  | parameters
  | conditions
  | rules
  deriving DecidableEq, Repr

/-- Check every rule of a template, given what is asked for. -/
def Template.checkRules (template : Template) (capabilities : Capabilities) : Except StackError Unit :=
  template.rules.entries.forM fun (name, rule) => template.checkRule capabilities name rule

/-- A check raises an error, after the ones before it have passed. -/
inductive Stack.Raises (stack : Stack σ) (template : Template) (parameters : Table String) :
    Check → StackError → Prop where
  | graph {error : StackError} (unsound : template.acyclicGraph = .error error) :
    Raises stack template parameters .graph error
  | parameters {graph : Graph} {error : StackError} (built : template.acyclicGraph = .ok graph)
      (invalid : ParameterValues.validate template.parameters parameters = .error error) :
    Raises stack template parameters .parameters error
  | conditions {graph : Graph} {values : ParameterValues} {error : EvaluationError}
      (built : template.acyclicGraph = .ok graph)
      (valid : ParameterValues.validate template.parameters parameters = .ok values)
      (undecided : template.conditionValues values.values.get? stack.config.pseudoParameter? = .error error) :
    Raises stack template parameters .conditions (.resolution "Conditions" error)
  | rules {graph : Graph} {values : ParameterValues} {conditions : ConditionValues} {error : StackError}
      (built : template.acyclicGraph = .ok graph)
      (valid : ParameterValues.validate template.parameters parameters = .ok values)
      (decided : template.conditionValues values.values.get? stack.config.pseudoParameter? = .ok conditions)
      (violated : template.checkRules (Inputs.capabilities ⟨values, conditions⟩ stack.config) = .error error) :
    Raises stack template parameters .rules error

/-! ### The errors of a check -/

/-- A graph is not built because of a name that nothing has. -/
theorem Template.isPreflight_addTargets {template : Template} {id : String} {targets : List String} {graph : Graph}
    {error : StackError} (h : template.addTargets id targets graph = .error error) :
  error.isPreflight
  := by
  induction targets generalizing graph with
  | nil => cases h
  | cons target rest ih =>
    unfold addTargets at h
    split at h
    · exact ih h
    · cases h
      rfl

theorem Template.isPreflight_addResources {template : Template} {resources : List (String × Resource)} {graph : Graph}
    {error : StackError} (h : template.addResources resources graph = .error error) :
  error.isPreflight
  := by
  induction resources generalizing graph with
  | nil => cases h
  | cons entry rest ih =>
    obtain h | ⟨_, _, h⟩ := Except.bind_eq_error.mp h
    · exact isPreflight_addTargets h
    · exact ih h

/-- A template without a graph mentions a name that nothing has or its resources refer to each other in a
cycle. -/
theorem Template.isPreflight_acyclicGraph {template : Template} {error : StackError}
    (h : template.acyclicGraph = .error error) :
  error.isPreflight
  := by
  obtain h | ⟨graph, _, h⟩ := Except.bind_eq_error.mp h
  · exact isPreflight_addResources h
  · obtain h | ⟨_, _, ⟨⟩⟩ := Except.bind_eq_error.mp h
    unfold Graph.detectCycles at h
    split at h
    · cases h
    · cases h
      rfl

theorem Parameter.isPreflight_validate {p : Parameter} {name text : String} {error : StackError}
    (h : p.validate name text = .error error) :
  error.isPreflight
  := by
  unfold validate at h
  dsimp only at h
  split at h
  · cases h
    rfl
  · cases h

theorem ParameterValues.isPreflight_textFor {supplied : Table String} {name : String} {p : Parameter}
    {error : StackError} (h : textFor supplied name p = .error error) :
  error.isPreflight
  := by
  unfold textFor at h
  split at h
  · cases h
  · cases h
  · cases h
    rfl

/-- Values that are not valid violate the declaration of a parameter. -/
theorem ParameterValues.isPreflight_validate {declared : Table Parameter} {supplied : Table String}
    {error : StackError} (h : validate declared supplied = .error error) :
  error.isPreflight
  := by
  unfold validate at h
  split at h
  · cases h
    rfl
  · obtain ⟨values, entry, _, h⟩ := Except.exists_mem_of_foldlM_eq_error h
    obtain h | ⟨_, _, h⟩ := Except.bind_eq_error.mp h
    · exact isPreflight_textFor h
    · obtain h | ⟨_, _, ⟨⟩⟩ := Except.bind_eq_error.mp h
      exact Parameter.isPreflight_validate h

theorem Template.isPreflight_checkAssertions {template : Template} {capabilities : Capabilities} {rule : String}
    {number : Nat} {assertions : List Assertion} {error : StackError}
    (h : template.checkAssertions capabilities rule number assertions = .error error) :
  error.isPreflight
  := by
  induction assertions generalizing number with
  | nil => cases h
  | cons assertion rest ih =>
    unfold checkAssertions at h
    split at h
    · cases h
      rfl
    · exact ih h
    · cases h
      rfl

/-- A rule that is violated names itself, even when one of its expressions has no truth value. -/
theorem Template.isPreflight_checkRule {template : Template} {capabilities : Capabilities} {name : String}
    {rule : Rule} {error : StackError} (h : template.checkRule capabilities name rule = .error error) :
  error.isPreflight
  := by
  unfold checkRule at h
  split at h
  · cases h
    rfl
  · cases h
  · exact isPreflight_checkAssertions h
  · exact isPreflight_checkAssertions h

theorem Template.isPreflight_checkRules {template : Template} {capabilities : Capabilities} {error : StackError}
    (h : template.checkRules capabilities = .error error) :
  error.isPreflight
  := by
  obtain ⟨entry, _, h⟩ := Except.exists_mem_of_forM_eq_error h
  exact isPreflight_checkRule h

namespace Stack

variable {stack : Stack σ} {template : Template} {parameters : Table String} {error : StackError}

/-- An update is refused just when one of the checks raises an error. -/
theorem preflight_eq_error :
  stack.preflight template parameters = .error error ↔ ∃ check, stack.Raises template parameters check error
  := by
  constructor
  · intro refused
    obtain unsound | ⟨graph, built, refused⟩ := Except.bind_eq_error.mp refused
    · exact ⟨.graph, .graph unsound⟩
    obtain refused | ⟨_, _, ⟨⟩⟩ := Except.bind_eq_error.mp refused
    obtain invalid | ⟨values, valid, refused⟩ := Except.bind_eq_error.mp refused
    · exact ⟨.parameters, .parameters built invalid⟩
    obtain refused | ⟨conditions, decided, refused⟩ := Except.bind_eq_error.mp refused
    · obtain ⟨source, undecided, rfl⟩ := Except.mapError_eq_error.mp refused
      exact ⟨.conditions, .conditions built valid undecided⟩
    · obtain violated | ⟨_, _, ⟨⟩⟩ := Except.bind_eq_error.mp refused
      exact ⟨.rules, .rules built valid (Except.mapError_eq_ok.mp decided) violated⟩
  · rintro ⟨check, raised⟩
    cases raised with
    | graph unsound =>
      exact Except.bind_eq_error.mpr (.inl unsound)
    | parameters built invalid =>
      apply Except.bind_eq_error.mpr
      refine .inr ⟨_, built, Except.bind_eq_error.mpr (.inl ?_)⟩
      exact Except.bind_eq_error.mpr (.inl invalid)
    | conditions built valid undecided =>
      apply Except.bind_eq_error.mpr
      refine .inr ⟨_, built, Except.bind_eq_error.mpr (.inl ?_)⟩
      refine Except.bind_eq_error.mpr (.inr ⟨_, valid, Except.bind_eq_error.mpr (.inl ?_)⟩)
      exact Except.mapError_eq_error.mpr ⟨_, undecided, rfl⟩
    | rules built valid decided violated =>
      apply Except.bind_eq_error.mpr
      refine .inr ⟨_, built, Except.bind_eq_error.mpr (.inl ?_)⟩
      refine Except.bind_eq_error.mpr (.inr ⟨_, valid, Except.bind_eq_error.mpr (.inr ?_)⟩)
      exact ⟨_, Except.mapError_eq_ok.mpr decided, Except.bind_eq_error.mpr (.inl violated)⟩

/-- Of the checks before a run only that of the conditions raises errors which do not count as such. -/
theorem Raises.isPreflight_iff {check : Check} (raised : stack.Raises template parameters check error) :
  error.isPreflight ↔ check ≠ .conditions
  := by
  cases raised with
  | graph unsound => simp [Template.isPreflight_acyclicGraph unsound]
  | parameters built invalid => simp [ParameterValues.isPreflight_validate invalid]
  | conditions built valid undecided => simp [StackError.isPreflight]
  | rules built valid decided violated => simp [Template.isPreflight_checkRules violated]

/-! ### What is reported -/

/-- What is reported of an update tells whether its error was raised before the run. -/
structure Classifies (stack : Stack σ) (template : Template) (parameters : Table String) (world : σ) : Prop where
  /-- The errors that count as raised before the run are those of the checks. -/
  classified : ∀ report error, stack.MayReport template parameters world report → report.error = some error →
    (error.isPreflight ↔ ∃ check, stack.Raises template parameters check error)
  /-- When a check has raised the error, everything is left as it was. -/
  untouched : ∀ report error, stack.MayReport template parameters world report → report.error = some error →
    (∃ check, stack.Raises template parameters check error) →
      report.stack = stack ∧ report.world = world ∧ report.calls = []

/-- A reported error was raised by a check, and then everything is left as it was, or it was not, and then it
does not count as raised before the run. -/
theorem MayReport.untouched_or_not_isPreflight {world : σ} {report : Report σ}
    (reported : stack.MayReport template parameters world report) (failed : report.error = some error) :
  ((∃ check, stack.Raises template parameters check error)
      ∧ report.stack = stack ∧ report.world = world ∧ report.calls = [])
    ∨ (¬ ∃ check, stack.Raises template parameters check error) ∧ ¬ error.isPreflight
  := by
  cases reported with
  | refused rejected =>
    cases failed
    exact .inl ⟨preflight_eq_error.mp rejected, rfl, rfl, rfl⟩
  | completed passed completes =>
    right
    rw [← preflight_eq_error, passed]
    rw [error_updateReport] at failed
    split at failed
    · cases failed
    · cases failed
      exact ⟨nofun, nofun⟩

/-- Reports tell which errors were raised before the run just when the check of the conditions raises none. -/
theorem classifies_iff (stack : Stack σ) (template : Template) (parameters : Table String) (world : σ) :
  stack.Classifies template parameters world ↔ ∀ error, ¬ stack.Raises template parameters .conditions error
  := by
  constructor
  · intro classifies error raised
    have reported : stack.MayReport template parameters world { stack, world, error := some error } :=
      .refused (preflight_eq_error.mpr ⟨_, raised⟩)
    have counted := (classifies.classified _ error reported rfl).mpr ⟨_, raised⟩
    exact raised.isPreflight_iff.mp counted rfl
  · intro decided
    constructor
    · intro report error reported failed
      obtain ⟨⟨check, raised⟩, -⟩ | ⟨unraised, uncounted⟩ := reported.untouched_or_not_isPreflight failed
      · rw [raised.isPreflight_iff]
        refine iff_of_true ?_ ⟨check, raised⟩
        rintro rfl
        exact decided error raised
      · exact iff_of_false uncounted unraised
    · intro report error reported failed raised
      obtain ⟨-, untouched⟩ | ⟨unraised, -⟩ := reported.untouched_or_not_isPreflight failed
      · exact untouched
      · exact absurd raised unraised

end Stack

/-! ### An example -/

/-- A template with a condition that names another one, which is not there. -/
def Template.undecided : Template where
  conditions := .ofList [("Live", .condition "Ready")]
  resources := .ofList [("Base", { type := "T", condition := some "Live" })]

/-- The error of a condition without a truth value is taken for one of the run. -/
theorem Stack.not_classifies_undecided :
  ¬ obliging.Classifies .undecided .empty ()
  := by
  rw [classifies_iff]
  intro decided
  apply decided (.resolution "Conditions" (.unknownCondition "Ready"))
  have built : Template.undecided.acyclicGraph = .ok (.ofNodes ["Base"]) := by cbv
  have valid : ParameterValues.validate Template.undecided.parameters .empty = .ok {} := by cbv
  exact .conditions built valid (by cbv)

end Reconcile
