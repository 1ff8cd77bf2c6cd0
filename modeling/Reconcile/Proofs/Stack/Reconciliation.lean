import Mathlib.Tactic.Common
import Reconcile.Proofs.Graph.Coverage
import Reconcile.Proofs.Run.Termination
import Reconcile.Proofs.Stack.Completion

/-!
# Reconciliation of a stack

Bringing the declared resources up to date ends under every schedule, provided that no resource
is concealed from the graph.  When one is, its own properties can read it behind the back of the
graph, and its task waits for itself.
-/

namespace Reconcile

variable {σ : Type}

/-- The declared resources are brought up to date in the end. -/
structure Setting.Reconciles (setting : Setting σ) (world : σ) : Prop where
  /-- The run as it is driven ends with all tasks finished. -/
  isOver : (setting.updateAll setting.desired.resources.names (setting.start world)).isOver
  /-- No schedule goes on forever. -/
  bounded : ∃ bound, ∀ count run, Run.Leads setting (setting.requested world) count run → count ≤ bound
  /-- No schedule stops while a task has not finished. -/
  live : ∀ count run, Run.Leads setting (setting.requested world) count run → ¬ run.isOver →
    ∃ later goal next, run.now ≤ later ∧ ({ run with now := later } : Run σ).step? setting goal = some next
  /-- No task ever waits for itself. -/
  untangled : ∀ count run, Run.Leads setting (setting.requested world) count run →
    ∀ goal, ¬ Relation.TransGen run.WaitsFor goal goal

namespace Setting

variable {setting : Setting σ}

/-- Only the declared resources have tasks at first. -/
theorem orderly_requested (setting : Setting σ) (Lower : Goal → Goal → Prop) (world : σ) :
  (setting.requested world).Orderly setting (setting.desired.resources.names.map .update) Lower
  := by
  have ready {goal : Goal} {progress : Progress} (hp : (setting.requested world).progress? goal = some progress) :
      goal ∈ setting.desired.resources.names.map Goal.update ∧ progress = .ready := by
    rw [progress?_requested] at hp
    split at hp
    · next requested => exact ⟨requested, (Option.some.inj hp).symm⟩
    · cases hp
  constructor
  · intro goal requested
    exact ⟨.ready, by rw [progress?_requested, if_pos requested]⟩
  · intro goal progress hp
    exact .inl (ready hp).1
  · intro goal progress hp
    obtain ⟨-, rfl⟩ := ready hp
    trivial
  · intro goal progress hp
    obtain ⟨-, rfl⟩ := ready hp
    nofun

/-- When tasks wait for lower ones the declared resources are brought up to date in the end. -/
theorem Paced.reconciles {Lower : Goal → Goal → Prop} {within : Run σ → Prop}
    (paced : setting.Paced (setting.desired.resources.names.map .update) Lower within) {world : σ}
    (holds : within (setting.requested world)) :
  setting.Reconciles world
  := by
  obtain ⟨isOver, bounded, live, untangled⟩ := (setting.orderly_requested Lower world).concludes paced holds
  exact ⟨isOver, bounded, live, untangled⟩

/-- When the graph guards the tasks, they wait for lower ones. -/
theorem Guarded.paced {graph : Graph} (guarded : setting.Guarded graph) :
  setting.Paced (setting.desired.resources.names.map .update)
    (fun goal other => graph.below goal.logicalId < graph.below other.logicalId)
    fun run => ∀ id, run.progress? (.delete id) = none
  := by
  constructor
  · intro goal _
    apply (InvImage.wf (fun goal : Goal => graph.below goal.logicalId) Nat.lt_wfRel.wf).apply goal
  · intro run next goal absent h
    apply Run.no_deletion_step absent h
  · intro run later absent id
    rw [Run.progress?_wait, absent]
  · intro run goal before on awaited answers absent hb move other ho
    cases goal with
    | delete id => cases (absent id).symm.trans hb
    | update id =>
      have edge := guarded.edge_of_move move ho
      constructor
      · apply List.mem_map_of_mem
        rw [← Table.contains_iff]
        exact (Template.mem_nodes_graph guarded.built other).mp edge.mem_nodes
      · apply Graph.below_lt guarded.acyclic edge

/-- When the graph guards the tasks the declared resources are brought up to date in the end. -/
theorem Guarded.reconciles {graph : Graph} (guarded : setting.Guarded graph) (world : σ) :
  setting.Reconciles world
  := guarded.paced.reconciles (setting.no_deletion_requested world)

end Setting

namespace Stack

variable {stack : Stack σ} {template : Template} {parameters : Table String} {graph : Graph} {inputs : Inputs}

/-- An update that passes what is checked first is guarded by its graph, unless a resource is concealed
from it. -/
theorem guarded_of_preflight (passed : stack.preflight template parameters = .ok (graph, inputs))
    (plain : ∀ id, template.isResource id → ¬ template.Concealed id) :
  (stack.updateSetting template inputs).Guarded graph
  := by
  obtain ⟨⟨built, acyclic⟩, -⟩ := preflight_eq_ok.mp passed
  refine ⟨built, acyclic, ?_⟩
  intro logicalId resource declared other read
  exact (Template.mem_edges_graph built logicalId other).mpr
    ⟨resource, declared, Template.mem_targets_of_mem_reads built plain declared read⟩

end Stack

/-! ### Tasks that wait for themselves -/

/-- Parameters that are texts of any form and have a default need no supplied value. -/
theorem ParameterValues.exists_validate (declared : Table Parameter)
    (plain : ∀ entry ∈ declared.entries, entry.2 = { type := .string, default := some (.string "") }) :
  ∃ values, ParameterValues.validate declared .empty = .ok values
  := by
  change ∃ values, (declared.entries.foldlM (fun values entry => do
    let text ← ParameterValues.textFor .empty entry.1 entry.2
    let value ← entry.2.validate entry.1 text
    return values.add entry.1 entry.2 value) {} : Except StackError ParameterValues) = .ok values
  revert plain
  generalize declared.entries = entries, ({} : ParameterValues) = before
  intro plain
  induction entries generalizing before with
  | nil => exact ⟨before, rfl⟩
  | cons entry rest ih =>
    obtain ⟨name, p⟩ := entry
    obtain rfl : p = { type := .string, default := some (.string "") } := plain _ List.mem_cons_self
    obtain ⟨values, hv⟩ := ih (before.add name _ (.string ""))
      fun other ho => plain other (List.mem_cons_of_mem _ ho)
    use values
    rw [List.foldlM_cons]
    apply Except.bind_eq_ok.mpr ⟨_, rfl, hv⟩

namespace Template

variable {template : Template} {id : String} {probe : Expression}

/-- A template that holds a probe passes what is checked first: its graph has no cycles. -/
theorem preflight_probed (stack : Stack σ) (probes : (template.probed id probe).Probe id probe) :
  ∃ graph inputs, stack.preflight (template.probed id probe) .empty = .ok (graph, inputs)
  := by
  obtain ⟨graph, built, edges⟩ := exists_graph_probed probes.elsewhere
  have acyclic := Graph.cyclicNodes_eq_nil_of_star edges
  obtain ⟨values, valid⟩ := ParameterValues.exists_validate (template.probed id probe).parameters <| by
    rintro entry he
    obtain ⟨_, -, rfl⟩ := List.mem_map.mp he
    rfl
  refine ⟨graph, ⟨values, .empty⟩, Stack.preflight_eq_ok.mpr ⟨⟨built, acyclic⟩, ?_⟩⟩
  exact Except.bind_eq_ok.mpr ⟨values, valid, Except.bind_eq_ok.mpr ⟨.empty, rfl, rfl⟩⟩

end Template

namespace Run

variable {setting : Setting σ} {id type : String} {probe : Expression}

/-- A task has not finished, and waits for nothing but itself. -/
def Stuck (run : Run σ) (id : String) : Prop :=
  run.progress? (.update id) = some .ready ∨ run.progress? (.update id) = some (.waiting [] [])
    ∨ run.progress? (.update id) = some (.waiting [id] [id])

theorem Stuck.result? {run : Run σ} (stuck : run.Stuck id) :
  run.result? (.update id) = none
  := by
  obtain h | h | h := stuck
  · rw [Run.result?, h]
    rfl
  · rw [Run.result?, h]
    rfl
  · rw [Run.result?, h]
    rfl

/-- While its task is stuck, the probed resource is not available. -/
theorem Stuck.find {run : Run σ} (stuck : run.Stuck id)
    (declared : setting.desired.resources.get? id = some { type, properties := some probe }) :
  (run.capabilities setting).find (.resource id) = .ok none
  := by
  have pending : (run.view setting).availability id = .pending := by
    simp [view, completed?, stuck.result?, Template.isExcluded, declared]
  simp [capabilities, Capabilities.find, pending]

/-- A task that holds a probe of its own resource stays stuck. -/
theorem Stuck.move {run : Run σ} (stuck : run.Stuck id) {before after : Progress} {answers : List Exchange}
    (declared : setting.desired.resources.get? id = some { type, properties := some probe })
    (probes : setting.desired.Probe id probe) (hb : run.progress? (.update id) = some before)
    (move : Move setting run (.update id) before after answers) :
  after = .waiting [] [] ∨ after = .waiting [id] [id]
  := by
  have asked := probes.asks _ (stuck.find declared)
  obtain h | h | h := stuck
  · obtain rfl := Option.some.inj (hb.symm.trans h)
    cases move
    simp [Setting.begin, declared, ConditionValues.isActive]
  · obtain rfl := Option.some.inj (hb.symm.trans h)
    cases move with
    | blocked ended failed => simp [firstFailed?] at failed
    | proceeded ended unfailed =>
      right
      have evaluated : setting.evaluate run id { type, properties := some probe } []
          = .ok (.waiting [id] [id]) := Except.bind_eq_ok.mpr ⟨_, asked, rfl⟩
      simp [Setting.proceed, declared, evaluated]
  · obtain rfl := Option.some.inj (hb.symm.trans h)
    have unfinished : ¬ (run.result? ((Goal.update id).withId id)).isSome := by
      simp [Run.result?, h, Progress.result?]
    cases move with
    | blocked ended failed => exact absurd (ended id List.mem_cons_self) unfinished
    | proceeded ended unfailed => exact absurd (ended id List.mem_cons_self) unfinished

theorem Stuck.step {run next : Run σ} {goal : Goal} (stuck : run.Stuck id)
    (declared : setting.desired.resources.get? id = some { type, properties := some probe })
    (probes : setting.desired.Probe id probe) (h : run.step? setting goal = some next) :
  next.Stuck id
  := by
  obtain ⟨before, after, answers, hb, move, entered, -⟩ := step?_spec h
  have progressed := entered.progress?_eq (.update id)
  by_cases hg : Goal.update id = goal
  · subst hg
    rw [if_pos rfl] at progressed
    obtain rfl | rfl := stuck.move declared probes hb move
    · exact .inr (.inl progressed)
    · exact .inr (.inr progressed)
  · rw [if_neg hg] at progressed
    obtain stuck | stuck | stuck := stuck
    · rw [stuck] at progressed
      exact .inl progressed
    · rw [stuck] at progressed
      exact .inr (.inl progressed)
    · rw [stuck] at progressed
      exact .inr (.inr progressed)

end Run

/-- The task of a resource whose own properties probe it never finishes. -/
theorem Setting.not_reconciles_of_probe {setting : Setting σ} {id type : String} {probe : Expression} (world : σ)
    (declared : setting.desired.resources.get? id = some { type, properties := some probe })
    (probes : setting.desired.Probe id probe) :
  ¬ setting.Reconciles world
  := by
  intro reconciles
  have listed : id ∈ setting.desired.resources.names :=
    (setting.desired.resources.exists_get?_iff id).mp ⟨_, declared⟩
  obtain ⟨count, leads⟩ := Run.leads_drive setting (setting.requested world)
    (setting.desired.resources.names.map .update)
    (setting.budget (setting.desired.resources.names.map .update))
  have stuck := leads.invariant (fun run => run.Stuck id)
    (fun run next goal stuck h => stuck.step declared probes h) (fun run later stuck => stuck)
    (.inl (by rw [progress?_requested, if_pos (List.mem_map_of_mem listed)]))
  have finished := Run.isOver_iff.mp reconciles.isOver (.update id)
  change ∀ progress, _ → (Run.result? (Run.drive setting _ _ (setting.requested world)) _).isSome at finished
  rw [stuck.result?] at finished
  obtain h | h | h := stuck
  · cases finished _ h
  · cases finished _ h
  · cases finished _ h

/-- Updates towards templates with some names are all reconciled precisely when no resource is
concealed. -/
theorem Template.forall_reconciles_iff (template : Template) :
  (∀ other, template.SameNames other →
    ∀ (σ : Type) (stack : Stack σ) (parameters : Table String) (graph : Graph) (inputs : Inputs) (world : σ),
      stack.preflight other parameters = .ok (graph, inputs) →
        (stack.updateSetting other inputs).Reconciles world)
    ↔ ∀ id, template.isResource id → ¬ template.Concealed id
  := by
  constructor
  · intro reconciles id hr concealed
    obtain ⟨probe, probes⟩ := concealed.exists_probe hr
    have same := sameNames_probed hr probe
    let stack : Stack Unit := { config := {}, providers := {} }
    obtain ⟨graph, inputs, passed⟩ := preflight_probed stack (probes _ same)
    apply Setting.not_reconciles_of_probe () (get?_resources_probed id probe) (probes _ same)
      (reconciles _ same _ stack _ _ _ () passed)
  · intro plain other same σ stack parameters graph inputs world passed
    apply (stack.guarded_of_preflight passed _).reconciles world
    intro id hr concealed
    rw [← same.isResource_eq] at hr
    apply plain id hr (same.symm.concealed concealed)

/-- A template in which a resource has an attribute of itself among its properties, and a parameter has
its name. -/
def Template.entangled : Template where
  parameters := .ofList [("A", { type := .string, default := some (.string "x") })]
  resources := .ofList [("A", { type := "T", properties := some (.object [("P", .getAtt "A" "Arn")]) })]

/-- It passes what is checked first, and is not reconciled. -/
theorem Template.not_reconciles_entangled :
  ∃ graph inputs, ({ config := {}, providers := {} } : Stack Unit).preflight entangled .empty = .ok (graph, inputs)
    ∧ ¬ (({ config := {}, providers := {} } : Stack Unit).updateSetting entangled inputs).Reconciles ()
  := by
  let values : ParameterValues := ⟨.ofList [("A", .string "x")], .ofList [("A", .string)], []⟩
  refine ⟨Graph.ofNodes ["A"], ⟨values, .empty⟩, Stack.preflight_eq_ok.mpr ⟨⟨rfl, ?_⟩, rfl⟩, ?_⟩
  · apply List.eq_nil_iff_forall_not_mem.mpr
    intro node hn
    obtain ⟨_, first, -⟩ := Relation.TransGen.head'_iff.mp (Graph.mem_cyclicNodes.mp hn)
    simp [Graph.Edge] at first
  · have declared : entangled.resources.get? "A"
        = some { type := "T", properties := some (.object [("P", .getAtt "A" "Arn")]) } := rfl
    apply Setting.not_reconciles_of_probe () declared
    constructor
    · intro capabilities h
      have asked : entangled.evalGetAtt capabilities "A" "Arn" = .waiting (.resource "A") .pending :=
        evalGetAtt_of_find_eq_none "Arn" rfl h
      apply evaluate_of_eval_waiting
      change entangled.eval capabilities (.object [("P", .getAtt "A" "Arn")]) = _
      simp only [eval, evalFields, asked]
      rfl
    · intro mention hm
      obtain rfl : mention = .member "A" := by
        simpa [Expression.mentions, Expression.fieldMentions] using hm
      exact .inr (.inl rfl)

end Reconcile
