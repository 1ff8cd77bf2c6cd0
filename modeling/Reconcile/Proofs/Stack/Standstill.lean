import Mathlib.Tactic.Common
import Reconcile.Proofs.Stack.Deletion

/-!
# Removals that come to a standstill

The removal of a resource waits for that of its dependents in the recorded template, whose graph may
have cycles.  If the removal of some resource waits for itself, no schedule ever comes to an end;
otherwise all of them do, whatever the providers answer, and every task has ended then.
-/

namespace Reconcile

variable {σ : Type} {setting : Setting σ} {ids : List String} {id : String} {world : σ}

/-- Without a graph of the recorded template no removal waits for another one. -/
theorem Setting.disentangled_of_error {error : StackError}
    (unbuilt : setting.previous.template.graph = .error error) :
  setting.Disentangled ids
  := by
  have graph_eq : setting.previous.graph = .ofNodes setting.previous.resources.names := by
    rw [StackState.graph, unbuilt]
  intro id cycle
  obtain ⟨other, waits, -⟩ := Relation.TransGen.head'_iff.mp cycle
  have needed := waits.needed
  rw [graph_eq, Graph.Edge, Graph.edges_ofNodes] at needed
  cases needed

/-! ### Tasks that wait for themselves -/

namespace Run

variable {run next : Run σ}

/-- The removal of a resource has not come further than to wait for its dependents. -/
def Held (setting : Setting σ) (run : Run σ) (id : String) : Prop :=
  run.progress? (.delete id) = some .ready
    ∨ run.progress? (.delete id) = some (.waiting (setting.dependents run id) [])

/-- The removals that wait for themselves are held. -/
structure Jammed (setting : Setting σ) (ids : List String) (run : Run σ) : Prop where
  doomed : run.doomed = ids
  held : ∀ id, Relation.TransGen (setting.Awaits ids) id id → run.Held setting id

theorem Held.result? (held : run.Held setting id) :
  run.result? (.delete id) = none
  := by
  obtain h | h := held
  · rw [Run.result?, h]
    rfl
  · rw [Run.result?, h]
    rfl

/-- A removal that waits for another one which is held is held. -/
theorem Held.move {other : String} (held : run.Held setting id) (recorded : setting.previous.resources.contains id)
    (waits : setting.Awaits run.doomed id other) (held' : run.Held setting other) {before after : Progress}
    {answers : List Exchange} (hb : run.progress? (.delete id) = some before)
    (move : Move setting run (.delete id) before after answers) :
  after = .waiting (setting.dependents run id) []
  := by
  have needed : other ∈ setting.dependents run id := (Setting.mem_dependents rfl rfl).mpr ⟨waits.needed, waits.listed⟩
  have unfinished : ¬ (run.result? ((Goal.delete id).withId other)).isSome := by simp [held'.result?]
  obtain h | h := held
  · obtain rfl := Option.some.inj (hb.symm.trans h)
    cases move
    simp [Setting.begin, recorded, waits.policy]
  · obtain rfl := Option.some.inj (hb.symm.trans h)
    cases move with
    | blocked ended failed => exact absurd (ended other needed) unfinished
    | proceeded ended unfailed => exact absurd (ended other needed) unfinished

theorem Jammed.step (recorded : ∀ id ∈ ids, setting.previous.resources.contains id)
    (jammed : run.Jammed setting ids) {goal : Goal} (h : run.step? setting goal = some next) :
  next.Jammed setting ids
  := by
  obtain ⟨before, after, answers, hb, move, entered, -⟩ := step?_spec h
  refine ⟨entered.doomed_eq.trans jammed.doomed, ?_⟩
  intro id cycle
  have progressed := entered.progress?_eq (.delete id)
  rw [Held, dependents_eq entered.doomed_eq]
  by_cases hg : Goal.delete id = goal
  · subst hg
    rw [if_pos rfl] at progressed
    right
    -- What it waits for on the cycle waits for itself, too.
    obtain ⟨other, waits, rest⟩ := Relation.TransGen.head'_iff.mp cycle
    obtain ⟨_, -, last⟩ := Relation.TransGen.tail'_iff.mp cycle
    have held' := jammed.held other (Relation.TransGen.tail' rest waits)
    rw [← jammed.doomed] at waits
    rw [progressed, (jammed.held id cycle).move (recorded id last.listed) waits held' hb move]
  · rw [if_neg hg] at progressed
    obtain held | held := jammed.held id cycle
    · rw [held] at progressed
      exact .inl progressed
    · rw [held] at progressed
      exact .inr progressed

theorem Jammed.wait (jammed : run.Jammed setting ids) (later : Nat) :
  ({ run with now := later } : Run σ).Jammed setting ids
  := ⟨jammed.doomed, jammed.held⟩

/-- Removals begin with none of them further than that. -/
theorem Leads.jammed_removing {count : Nat} (leads : Leads setting (setting.requested world) count run)
    (ids : List String) :
  (run.removing ids).Jammed setting ids
  := by
  refine ⟨run.doomed_removing ids, ?_⟩
  intro id cycle
  obtain ⟨_, -, last⟩ := Relation.TransGen.tail'_iff.mp cycle
  left
  rw [progress?_removing, leads.no_deletion, if_pos (List.mem_map_of_mem last.listed), Option.none_or]

end Run

/-! ### Removals that end -/

/-- The removal of some recorded resources, after a run, comes to its end. -/
structure Setting.Finishes (setting : Setting σ) (ids : List String) (first : Run σ) : Prop where
  concludes : (first.removing ids).Concludes setting (ids.map .delete)
  /-- At its end the task of every resource has ended. -/
  ended : ∀ count last, Run.Leads setting (first.removing ids) count last → last.isOver →
    ∀ id ∈ ids, ∃ result, last.result? (.delete id) = some result

namespace Setting

variable {count : Nat} {first : Run σ}

/-- When the removal of a resource waits for itself, no schedule comes to an end. -/
theorem disentangled_of_isOver (leads : Run.Leads setting (setting.requested world) count first)
    (recorded : ∀ id ∈ ids, setting.previous.resources.contains id) {count' : Nat} {last : Run σ}
    (leads' : Run.Leads setting (first.removing ids) count' last) (ended : last.isOver) :
  setting.Disentangled ids
  := by
  intro id cycle
  have jammed : last.Jammed setting ids := by
    apply leads'.invariant fun run => run.Jammed setting ids
    · intro run next goal jammed h
      apply jammed.step recorded h
    · intro run later jammed
      apply jammed.wait later
    · apply leads.jammed_removing
  have held := jammed.held id cycle
  have there : ∃ progress, last.progress? (.delete id) = some progress := by
    obtain h | h := held
    · exact ⟨_, h⟩
    · exact ⟨_, h⟩
  obtain ⟨result, finished⟩ := Run.exists_result_of_isOver ended there
  cases held.result?.symm.trans finished

/-- The removal of recorded resources comes to its end just when none of them waits for itself. -/
theorem finishes_iff (leads : Run.Leads setting (setting.requested world) count first) (updated : first.isOver)
    (recorded : ∀ id ∈ ids, setting.previous.resources.contains id) :
  setting.Finishes ids first ↔ setting.Disentangled ids
  := by
  constructor
  · intro finishes
    obtain ⟨count', leads'⟩ := Run.leads_drive setting (first.removing ids) (ids.map .delete)
      (setting.budget (ids.map .delete))
    apply disentangled_of_isOver leads recorded leads' finishes.concludes.isOver
  · intro disentangled
    constructor
    · obtain ⟨orderly, settled⟩ := orderly_removing updated ids _
      exact orderly.concludes (paced_removing disentangled) ⟨first.doomed_removing ids, settled⟩
    · intro count' last leads' ended id listed
      apply Run.exists_result_of_isOver ended (leads'.exists_progress (first.exists_progress_removing listed))

end Setting

namespace Stack

variable {stack : Stack σ}

/-- The deletion of a stack comes to its end, for better or worse. -/
structure EndsDeletion (stack : Stack σ) (world : σ) : Prop where
  /-- Under every schedule it comes to its end. -/
  concludes : ((stack.deleteSetting.start world).removing (stack.state.deletionOrder .empty [])).Concludes
    stack.deleteSetting ((stack.state.deletionOrder .empty []).map .delete)
  /-- One of these is that by which it is driven. -/
  deletes : stack.Deletes world (stack.deleteRun world)
  /-- At its end the task of every recorded resource has ended. -/
  ended : ∀ last, stack.Deletes world last → ∀ id, stack.state.resources.contains id →
    ∃ result, last.result? (.delete id) = some result
  /-- Its only error is that some of them could not be deleted. -/
  reported : ∀ last, stack.Deletes world last →
    (stack.deleteReport last).error = none
      ∨ ∃ failures, failures ≠ [] ∧ (stack.deleteReport last).error = some (.deleteFailed failures)

/-- The deletion of a stack is the removal of all that is recorded. -/
theorem endsDeletion_of_disentangled
    (disentangled : stack.deleteSetting.Disentangled (stack.state.deletionOrder .empty [])) :
  stack.EndsDeletion world
  := by
  have finishes : stack.deleteSetting.Finishes (stack.state.deletionOrder .empty [])
      (stack.deleteSetting.start world) :=
    (Setting.finishes_iff .here rfl fun _ => StackState.contains_of_mem_deletionOrder).mpr disentangled
  refine ⟨finishes.concludes, ⟨Run.leads_drive _ _ _ _, finishes.concludes.isOver⟩, ?_, ?_⟩
  · rintro last ⟨⟨count, leads⟩, ended⟩ id recorded
    apply finishes.ended count last leads ended id (StackState.mem_deletionOrder_empty.mpr recorded)
  · intro last _
    unfold deleteReport
    dsimp only
    split
    · exact .inl rfl
    · next failed => exact .inr ⟨_, mt List.isEmpty_iff.mpr failed, rfl⟩

/-- Where the removal of a recorded resource waits for itself, the deletion of a stack has no end. -/
theorem disentangled_of_deletes {last : Run σ} (deletes : stack.Deletes world last) :
  stack.deleteSetting.Disentangled (stack.state.deletionOrder .empty [])
  := by
  obtain ⟨⟨count, leads⟩, ended⟩ := deletes
  apply Setting.disentangled_of_isOver .here (fun _ => StackState.contains_of_mem_deletionOrder) leads ended

/-- Whatever is recorded and whatever the providers do, the deletion of a stack comes to its end just when the
removal of no recorded resource waits for itself, and otherwise it never ends.  The same holds for the resources
that an update removes. -/
theorem endsDeletion_iff_disentangled (stack : Stack σ) :
  (∀ world,
    (stack.EndsDeletion world ↔ stack.deleteSetting.Disentangled (stack.state.deletionOrder .empty []))
      ∧ ((∃ last, stack.Deletes world last)
        ↔ stack.deleteSetting.Disentangled (stack.state.deletionOrder .empty [])))
    ∧ ∀ template inputs world count middle,
        let setting := stack.updateSetting template inputs
        Run.Leads setting (setting.requested world) count middle → middle.isOver →
        (setting.Finishes setting.removals middle ↔ setting.Disentangled setting.removals)
          ∧ ((∃ count last, Run.Leads setting (middle.removing setting.removals) count last ∧ last.isOver)
            ↔ setting.Disentangled setting.removals)
  := by
  constructor
  · intro world
    refine ⟨⟨?_, endsDeletion_of_disentangled⟩, ?_, ?_⟩
    · intro ends
      apply disentangled_of_deletes ends.deletes
    · rintro ⟨last, deletes⟩
      apply disentangled_of_deletes deletes
    · intro disentangled
      exact ⟨_, (endsDeletion_of_disentangled disentangled).deletes⟩
  · intro template inputs world count middle setting leads updated
    have recorded := setting.contains_of_mem_removals
    have finishes := Setting.finishes_iff leads updated recorded
    refine ⟨finishes, ?_, ?_⟩
    · rintro ⟨count', last, leads', ended⟩
      apply Setting.disentangled_of_isOver leads recorded leads' ended
    · intro disentangled
      obtain ⟨count', leads'⟩ := Run.leads_drive setting (middle.removing setting.removals)
        (setting.removals.map .delete) (setting.budget (setting.removals.map .delete))
      exact ⟨count', _, leads', (finishes.mpr disentangled).concludes.isOver⟩

/-- The deletion of a stack comes to its end when one of its resources refers to the other, and so does an update
that removes both. -/
theorem endsDeletion_standing :
  standing.EndsDeletion ()
    ∧ ∃ count middle, Run.Leads (standing.updateSetting .empty {})
        ((standing.updateSetting .empty {}).requested ()) count middle ∧ middle.isOver
        ∧ (standing.updateSetting .empty {}).Finishes (standing.updateSetting .empty {}).removals middle
  := by
  obtain ⟨graph, passed⟩ := preflight_chained fun _ => .error []
  obtain ⟨built, acyclic⟩ := (preflight_eq_ok.mp passed).1
  have disentangled (template : Template) (inputs : Inputs) (ids : List String) :
      (standing.updateSetting template inputs).Disentangled ids :=
    Setting.disentangled_of_acyclic (StackState.graph_eq built) acyclic
  obtain ⟨deletion, update⟩ := endsDeletion_iff_disentangled standing
  refine ⟨(deletion ()).1.mpr (disentangled _ _ _), _, _, .here, rfl, ?_⟩
  apply (update .empty {} () _ _ .here rfl).1.mpr (disentangled _ _ _)

/-- A stack of which two resources are recorded that refer to each other. -/
def entwined : Stack Unit :=
  { obliging with
    state :=
      { template :=
          { resources := .ofList
              [("A", { type := "T", properties := some (.object [("P", .ref "B")]) }),
                ("B", { type := "T", properties := some (.object [("P", .ref "A")]) })] }
        resources := .ofList [("A", { type := "T" }), ("B", { type := "T" })] } }

/-- Its deletion never ends, although its providers always answer. -/
theorem not_endsDeletion_entwined :
  ¬ entwined.EndsDeletion () ∧ ¬ ∃ last, entwined.Deletes () last
  := by
  have built : entwined.state.template.graph = .ok (((Graph.ofNodes ["A", "B"]).addEdge "A" "B").addEdge "B" "A") := by
    cbv
  have graph_eq : entwined.deleteSetting.previous.graph = _ := StackState.graph_eq built
  have first : entwined.deleteSetting.Awaits (entwined.state.deletionOrder .empty []) "A" "B" := by
    refine ⟨rfl, ?_, StackState.mem_deletionOrder_empty.mpr rfl⟩
    rw [graph_eq, Graph.Edge]
    decide
  have second : entwined.deleteSetting.Awaits (entwined.state.deletionOrder .empty []) "B" "A" := by
    refine ⟨rfl, ?_, StackState.mem_deletionOrder_empty.mpr rfl⟩
    rw [graph_eq, Graph.Edge]
    decide
  have never : ¬ ∃ last, entwined.Deletes () last := by
    rintro ⟨last, deletes⟩
    apply disentangled_of_deletes deletes "A"
    exact .tail (.single first) second
  refine ⟨?_, never⟩
  intro ends
  exact never ⟨_, ends.deletes⟩

end Stack

end Reconcile
