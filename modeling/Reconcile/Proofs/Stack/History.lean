import Mathlib.Tactic.Common
import Reconcile.Proofs.Graph.Refusal
import Reconcile.Proofs.Stack.Deletion
import Reconcile.Proofs.Stack.Recording

/-!
# Histories of stacks

Recorded resources are removed in the order of the graph of the recorded template, if that has one.
After an update with failures the recorded template is put together of the new template and of the
definitions that the failed update has left over, with the parameters of the new template only.
It has a graph just when these definitions make sense there.
-/

namespace Reconcile

variable {σ : Type}

/-! ### Templates that have a graph -/

namespace Template

variable (template : Template)

/-- A template has a graph without cycles when its resources depend on resources, and none on itself. -/
theorem exists_acyclicGraph_iff :
  (∃ graph, template.acyclicGraph = .ok graph)
    ↔ (∀ id target, template.DependsOn id target → template.isResource target)
        ∧ ∀ id, ¬ Relation.TransGen template.DependsOn id id
  := by
  constructor
  · rintro ⟨graph, accepted⟩
    obtain ⟨built, acyclic⟩ := acyclicGraph_eq_ok.mp accepted
    constructor
    · rintro id target ⟨resource, declared, mentioned⟩
      exact isResource_of_mem_targets built declared mentioned
    · rw [← edge_eq_dependsOn built]
      exact Graph.cyclicNodes_eq_nil_iff.mp acyclic
  · rintro ⟨declared, acyclic⟩
    exact (refusesCycles_acyclicGraph declared).accepts acyclic

end Template

/-! ### The recorded template -/

/-- Definitions are added for the names of some entries, unless there is one. -/
theorem get?_foldl_definitions (definitions : Table Resource) (entries : List (String × PhysicalResource))
    (resources : Table Resource) {id : String} {resource : Resource} :
  (entries.foldl (fun resources entry =>
      match definitions.get? entry.1 with
      | some definition => if resources.contains entry.1 then resources else resources.insert entry.1 definition
      | none => resources) resources).get? id = some resource
    ↔ resources.get? id = some resource
      ∨ resources.get? id = none ∧ id ∈ entries.map (·.1) ∧ definitions.get? id = some resource
  := by
  induction entries generalizing resources with
  | nil => simp
  | cons entry rest ih =>
    rw [List.foldl_cons, ih, List.map_cons, List.mem_cons]
    by_cases he : id = entry.1
    · subst he
      cases defined : definitions.get? entry.1 with
      | none => simp
      | some definition =>
        cases found : resources.get? entry.1 with
        | none => simp [Table.contains, found, Table.get?_insert]
        | some resource => simp [Table.contains, found]
    · cases definitions.get? entry.1 with
      | none => simp [he]
      | some definition =>
        dsimp only
        split
        · simp [he]
        · simp [he, Table.get?_insert]

namespace Run

variable (setting : Setting σ) (run : Run σ)

/-- The definition of a resource is left over: the resource is recorded, but no longer declared. -/
def Leaves (id : String) (definition : Resource) : Prop :=
  (∃ physical, (id, physical) ∈ run.leftovers setting)
    ∧ setting.previous.template.resources.get? id = some definition

/-- A definition that is left over depends on a name that is no parameter of the new template. -/
def Recalls (id target : String) : Prop :=
  ∃ definition, run.Leaves setting id definition ∧ target ∈ setting.desired.targets definition

/-- The definitions that are left over depend on resources that are declared or left over, and on no cycle. -/
structure Closed : Prop where
  there : ∀ id target, run.Recalls setting id target →
    setting.desired.isResource target ∨ ∃ definition, run.Leaves setting target definition
  acyclic : ∀ id, ¬ Relation.TransGen (run.Recalls setting) id id

variable {setting run}

theorem Leaves.undeclared {id : String} {definition : Resource} (leaves : run.Leaves setting id definition) :
  ¬ setting.desired.isResource id
  := by
  obtain ⟨⟨physical, left⟩, -⟩ := leaves
  exact (mem_leftovers.mp left).2.1

/-- The recorded template declares what the new one does, and what is left over. -/
theorem get?_recordedTemplate {id : String} {resource : Resource} :
  (run.recordedTemplate setting).resources.get? id = some resource
    ↔ setting.desired.resources.get? id = some resource ∨ run.Leaves setting id resource
  := by
  have found : (run.recordedTemplate setting).resources.get? id = some resource ↔ _ :=
    get?_foldl_definitions setting.previous.template.resources (run.leftovers setting) setting.desired.resources
  rw [found]
  apply or_congr_right
  constructor
  · rintro ⟨-, listed, defined⟩
    obtain ⟨⟨_, physical⟩, left, rfl⟩ := List.mem_map.mp listed
    exact ⟨⟨physical, left⟩, defined⟩
  · rintro ⟨⟨physical, left⟩, defined⟩
    refine ⟨?_, List.mem_map_of_mem left, defined⟩
    exact Option.not_isSome_iff_eq_none.mp (mem_leftovers.mp left).2.1

theorem isResource_recordedTemplate {id : String} :
  (run.recordedTemplate setting).isResource id
    ↔ setting.desired.isResource id ∨ ∃ definition, run.Leaves setting id definition
  := by
  have isResource_iff (template : Template) :
      template.isResource id ↔ ∃ resource, template.resources.get? id = some resource := Option.isSome_iff_exists
  simp only [isResource_iff, get?_recordedTemplate, exists_or]

theorem dependsOn_recordedTemplate {id target : String} :
  (run.recordedTemplate setting).DependsOn id target
    ↔ setting.desired.DependsOn id target ∨ run.Recalls setting id target
  := by
  have targets : (run.recordedTemplate setting).targets = setting.desired.targets := rfl
  simp only [Template.DependsOn, Recalls, get?_recordedTemplate, targets, or_and_right, exists_or]

section

variable (declared : ∀ id target, setting.desired.DependsOn id target → setting.desired.isResource target)

include declared

/-- Declared resources depend on declared resources only. -/
theorem declared_of_reaches {id target : String}
    (reaches : Relation.TransGen (run.recordedTemplate setting).DependsOn id target)
    (there : setting.desired.isResource id) :
  Relation.TransGen setting.desired.DependsOn id target ∧ setting.desired.isResource target
  := by
  have step {id target : String} (depends : (run.recordedTemplate setting).DependsOn id target)
      (there : setting.desired.isResource id) :
      setting.desired.DependsOn id target ∧ setting.desired.isResource target := by
    obtain depends | ⟨definition, leaves, -⟩ := dependsOn_recordedTemplate.mp depends
    · exact ⟨depends, declared id target depends⟩
    · exact absurd there leaves.undeclared
  induction reaches with
  | single depends => exact (step depends there).imp_left .single
  | tail _ depends ih => exact (step depends ih.2).imp_left (.tail ih.1)

/-- What leads to a resource that is left over is left over. -/
theorem recalls_of_reaches {id target : String}
    (reaches : Relation.TransGen (run.recordedTemplate setting).DependsOn id target)
    (left : ¬ setting.desired.isResource target) :
  Relation.TransGen (run.Recalls setting) id target
  := by
  induction reaches using Relation.TransGen.head_induction_on with
  | single depends =>
    obtain depends | recalls := dependsOn_recordedTemplate.mp depends
    · exact absurd (declared _ _ depends) left
    · exact .single recalls
  | head depends reaches ih =>
    obtain depends | recalls := dependsOn_recordedTemplate.mp depends
    · exact absurd (declared_of_reaches declared reaches (declared _ _ depends)).2 left
    · exact .head recalls ih

end

/-- The recorded template has a graph just when the definitions that are left over make sense in the new
one. -/
theorem exists_acyclicGraph_recordedTemplate {graph : Graph} (built : setting.desired.acyclicGraph = .ok graph) :
  (∃ graph, (run.recordedTemplate setting).acyclicGraph = .ok graph) ↔ run.Closed setting
  := by
  obtain ⟨declared, acyclic⟩ := setting.desired.exists_acyclicGraph_iff.mp ⟨graph, built⟩
  rw [Template.exists_acyclicGraph_iff]
  constructor
  · rintro ⟨there, untangled⟩
    constructor
    · intro id target recalls
      exact isResource_recordedTemplate.mp (there id target (dependsOn_recordedTemplate.mpr (.inr recalls)))
    · intro id cycle
      apply untangled id
      exact Relation.TransGen.mono (fun _ _ recalls => dependsOn_recordedTemplate.mpr (.inr recalls)) _ _ cycle
  · rintro ⟨there, untangled⟩
    constructor
    · intro id target depends
      apply isResource_recordedTemplate.mpr
      obtain depends | recalls := dependsOn_recordedTemplate.mp depends
      · exact .inl (declared id target depends)
      · exact there id target recalls
    · intro id cycle
      by_cases isDeclared : setting.desired.isResource id
      · exact acyclic id (declared_of_reaches declared cycle isDeclared).1
      · exact untangled id (recalls_of_reaches declared cycle isDeclared)

end Run

/-- An update without failures leaves no definitions over. -/
theorem Setting.Succeeds.closed {setting : Setting σ} {world : σ} {middle last : Run σ}
    (succeeds : setting.Succeeds world middle last) :
  last.Closed setting
  := by
  have nothing (id target : String) : ¬ last.Recalls setting id target := by
    rintro ⟨definition, ⟨⟨physical, left⟩, -⟩, -⟩
    rw [succeeds.leftovers_eq_nil] at left
    cases left
  constructor
  · intro id target recalls
    exact absurd recalls (nothing id target)
  · intro id cycle
    obtain ⟨target, recalls, -⟩ := Relation.TransGen.head'_iff.mp cycle
    exact nothing id target recalls

/-! ### Histories -/

/-- The recorded template has a graph without cycles. -/
def StackState.Builds (state : StackState) : Prop := ∃ graph, state.template.acyclicGraph = .ok graph

theorem StackState.builds_empty :
  StackState.empty.Builds
  := ⟨.ofNodes [], by cbv⟩

namespace Stack

/-- What a stack has been through of which nothing was recorded at first: the runs of its updates, what it has been
after every call, and what it is. -/
inductive History : List (Setting σ × Run σ) → List (Stack σ) → Stack σ → Prop where
  | start {stack : Stack σ} (empty : stack.state = .empty) : History [] [stack] stack
  | refused {updates : List (Setting σ × Run σ)} {visited : List (Stack σ)} {stack : Stack σ} {template : Template}
      {parameters : Table String} {error : StackError} (before : History updates visited stack)
      (rejected : stack.preflight template parameters = .error error) :
    History updates (visited ++ [stack]) stack
  | updated {updates : List (Setting σ × Run σ)} {visited : List (Stack σ)} {stack : Stack σ} {template : Template}
      {parameters : Table String} {graph : Graph} {inputs : Inputs} {world : σ} {middle last : Run σ}
      (before : History updates visited stack) (passed : stack.preflight template parameters = .ok (graph, inputs))
      (completes : (stack.updateSetting template inputs).Completes world middle last) :
    History (updates ++ [(stack.updateSetting template inputs, last)])
      (visited ++ [(stack.updateReport template inputs last).stack]) (stack.updateReport template inputs last).stack
  | deleted {updates : List (Setting σ × Run σ)} {visited : List (Stack σ)} {stack : Stack σ} {world : σ}
      {last : Run σ} (before : History updates visited stack) (deletes : stack.Deletes world last) :
    History updates (visited ++ [(stack.deleteReport last).stack]) (stack.deleteReport last).stack

variable {updates : List (Setting σ × Run σ)} {visited : List (Stack σ)} {stack : Stack σ}

theorem History.mem_visited (history : History updates visited stack) :
  stack ∈ visited
  := by
  cases history with
  | start => exact List.mem_cons_self
  | _ => exact List.mem_append_right _ List.mem_cons_self

/-- A deletion keeps the recorded template, or leaves nothing. -/
theorem builds_deleteReport (run : Run σ) (builds : stack.state.Builds) :
  (stack.deleteReport run).stack.state.Builds
  := by
  unfold deleteReport
  dsimp only
  split
  · exact StackState.builds_empty
  · exact builds

/-- After every call the recorded template has a graph without cycles, so that resources can be removed in its
order, just when no update has left definitions over that make no sense in the template that it was to. -/
theorem forall_builds_iff (history : History updates visited stack) :
  (∀ stack ∈ visited, stack.state.Builds) ↔ ∀ update ∈ updates, update.2.Closed update.1
  := by
  induction history with
  | start empty =>
    simp only [List.mem_singleton, forall_eq, empty, List.not_mem_nil, false_imp_iff, implies_true, iff_true]
    exact StackState.builds_empty
  | refused before rejected ih =>
    rw [← ih]
    simp only [List.forall_mem_append, List.mem_singleton, forall_eq, and_iff_left_iff_imp]
    intro builds
    exact builds _ before.mem_visited
  | @updated _ _ stack template _ _ inputs _ _ last before passed completes ih =>
    have recorded : (stack.updateReport template inputs last).stack.state.Builds
        ↔ last.Closed (stack.updateSetting template inputs) :=
      Run.exists_acyclicGraph_recordedTemplate (Template.acyclicGraph_eq_ok.mpr (preflight_eq_ok.mp passed).1)
    simp only [List.forall_mem_append, List.mem_singleton, forall_eq, ih, recorded]
  | deleted before deletes ih =>
    rw [← ih]
    simp only [List.forall_mem_append, List.mem_singleton, forall_eq, and_iff_left_iff_imp]
    intro builds
    exact builds_deleteReport _ (builds _ before.mem_visited)

/-- After an update that went well the recorded template has a graph. -/
theorem exists_forall_builds_obliging :
  ∃ updates visited stack, History updates visited stack
    ∧ visited.head? = some obliging ∧ updates.map (·.1.desired) = [.chained]
    ∧ ∀ stack ∈ visited, stack.state.Builds
  := by
  obtain ⟨graph, middle, last, passed, completes, succeeded⟩ := exists_completes_obliging
  have history := History.updated (.start rfl) passed completes
  refine ⟨_, _, _, history, rfl, rfl, (forall_builds_iff history).mpr ?_⟩
  intro update hu
  obtain rfl := List.mem_singleton.mp hu
  exact (succeeds_of_error completes succeeded).closed

end Stack

/-! ### Definitions that are left over -/

/-- A template of a resource and another one that refers to it and to a parameter. -/
def Template.parametrized : Template where
  parameters := .ofList [("P", { type := .string, default := some (.string "x") })]
  resources := .ofList
    [("B", { type := "T" }), ("A", { type := "T", properties := some (.object [("On", .ref "B"), ("P", .ref "P")]) })]

/-- A template of another resource. -/
def Template.replacing : Template where
  resources := .ofList [("C", { type := "T" })]

namespace Stack

/-- The stack whose provider makes every resource but one. -/
def reluctant : Stack Unit :=
  answering fun request =>
    if request.logicalId = "C" then .error ["refused"]
    else .ok { resource := { type := request.type, physicalId := some request.logicalId } }

/-- When the update that is to replace them fails, definitions are left over, and one of them refers to a
parameter that is declared no longer.  With the graph the dependency between them is lost too. -/
theorem exists_history_not_builds :
  ∃ updates visited stack, History updates visited stack
    ∧ visited.head? = some reluctant ∧ updates.map (·.1.desired) = [.parametrized, .replacing]
    ∧ ¬ stack.state.Builds ∧ stack.state.graph.edges = []
  := by
  let values : ParameterValues := ⟨.ofList [("P", .string "x")], .ofList [("P", .string)], []⟩
  have passed : reluctant.preflight .parametrized .empty
      = .ok ((Graph.ofNodes ["B", "A"]).addEdge "A" "B", ⟨values, .empty⟩) := by cbv
  let first := reluctant.updateSetting .parametrized ⟨values, .empty⟩
  let next (run : Run Unit) := (reluctant.updateReport .parametrized ⟨values, .empty⟩ (run.removing [])).stack
  let second (run : Run Unit) := (next run).updateSetting .replacing {}
  have made : ((first.requested ()).steps? first
      [.update "B", .update "B", .update "B", .update "A", .update "A", .update "A"]).any fun run =>
        run.isOver && (run.failures (first.desired.resources.names.map .update)).isEmpty
          && (((second run).requested ()).steps? (second run) [.update "C", .update "C", .update "C"]).any fun last =>
            last.isOver && !(last.failures ((second run).desired.resources.names.map .update)).isEmpty
              && (last.recordedTemplate (second run)).graph.toOption.isNone := by
    decide +kernel
  obtain ⟨run, scheduled, holds⟩ := (Option.any_eq_true _ _).mp made
  simp only [Bool.and_eq_true, List.isEmpty_iff] at holds
  obtain ⟨⟨ended, unfailed⟩, left⟩ := holds
  obtain ⟨last, scheduled', holds⟩ := (Option.any_eq_true _ _).mp left
  simp only [Bool.and_eq_true, Bool.not_eq_true', List.isEmpty_eq_false_iff, Option.isNone_iff_eq_none] at holds
  obtain ⟨⟨ended', failed⟩, unbuilt⟩ := holds
  have completes : first.Completes () run (run.removing []) := by
    have nothing : first.removals = [] := Setting.removals_eq_nil rfl
    refine ⟨Run.leads_steps? scheduled, ended, ?_, fun failed => absurd unfailed failed⟩
    intro _
    rw [nothing]
    exact ⟨⟨0, .here⟩, ended⟩
  have completes' : (second run).Completes () last last :=
    ⟨Run.leads_steps? scheduled', ended', fun none => absurd none failed, fun _ => rfl⟩
  have passed' : reluctant.preflight .replacing .empty = .ok (.ofNodes ["C"], {}) := by cbv
  have passed' : (next run).preflight .replacing .empty = .ok (.ofNodes ["C"], {}) := passed'
  have history := History.updated (.updated (.start rfl) passed completes) passed' completes'
  have unbuilt (graph : Graph) : (last.recordedTemplate (second run)).graph ≠ .ok graph := by
    intro built
    rw [built] at unbuilt
    cases unbuilt
  refine ⟨_, _, _, history, rfl, rfl, ?_, ?_⟩
  · rintro ⟨graph, acyclic⟩
    exact unbuilt graph (Template.acyclicGraph_eq_ok.mp acyclic).1
  · unfold StackState.graph
    split
    · next graph built => exact absurd built (unbuilt graph)
    · exact Graph.edges_ofNodes _

end Stack

end Reconcile
