import Mathlib.Tactic.Common
import Reconcile.Proofs.Run.Counting
import Reconcile.Proofs.Run.Pauses
import Reconcile.Proofs.Run.Perseverance
import Reconcile.Proofs.Stack.Deletion
import Reconcile.Proofs.Stack.Operations
import Reconcile.Proofs.Stack.Reconciliation

/-!
# Repeated calls of a stack

However far an update has come, and whatever the schedule, a task calls a provider until the first success or until
its attempts have been used up, rests in between for the delays of the schedule, and is counted when it has come to
its end.  Updates and deletions as they are driven rest for just as long, and leave no call without its end.
-/

namespace Reconcile

variable {σ : Type}

/-- In a run providers are called again as the configuration and their policies have it. -/
structure Run.Perseveres (setting : Setting σ) (Meets : Nat → Nat → Prop) (run : Run σ) : Prop where
  /-- A task calls again when the next delay of the schedule has passed since the answer to its call before. -/
  spaced : ∀ goal, Run.Spaced setting Meets (run.callsOf goal)
  /-- A task that has called comes to its end by its own steps alone. -/
  ends : ∀ goal, run.asked goal ≠ [] → ∃ count last, Run.Leads setting run count last
    ∧ (last.result? goal).isSome ∧ ∀ other ≠ goal, last.progress? other = run.progress? other
  /-- It has then called as often as the answers made it, and fares accordingly. -/
  undertakes : ∀ goal result, run.result? goal = some result → run.asked goal ≠ [] →
    run.Undertakes setting goal result
  /-- Each such operation has been counted for the type of its resource, with its calls. -/
  counted : run.Counted
  /-- So the attempts of a type are its operations and its retries, and no more operations have failed than there
  were. -/
  balance : ∀ type, let m := (run.metrics.get? type).getD {}
    m.attempts = m.operations + m.retries ∧ m.failures ≤ m.operations

/-- Every task that has called a provider has come to its end. -/
def Run.Settled (run : Run σ) : Prop := ∀ goal, run.asked goal ≠ [] → (run.result? goal).isSome

namespace Setting

variable {setting : Setting σ} {world : σ} {run : Run σ}

theorem Reaches.perseveres_of_courses {Meets : Nat → Nat → Prop} (reaches : setting.Reaches world run)
    (courses : run.Each (Run.Course setting Meets)) :
  run.Perseveres setting Meets
  := by
  have all : run.Sound setting ∧ run.Tallied setting ∧ run.Counted := by
    apply reaches.invariant fun run => run.Sound setting ∧ run.Tallied setting ∧ run.Counted
    · exact ⟨setting.sound_requested world, Run.tallied_requested setting world, Run.counted_requested setting world⟩
    · rintro run next goal ⟨sound, tallied, counted⟩ h
      exact ⟨(sound.step h).1, tallied.step sound h, counted.step sound tallied h⟩
    · rintro run later ⟨sound, tallied, counted⟩
      exact ⟨(sound.wait later).1, tallied.wait sound later, counted.wait later⟩
    · rintro run ⟨sound, tallied, counted⟩
      exact ⟨(sound.removing _).1, tallied.removing sound _, counted.removing _⟩
  obtain ⟨sound, tallied, counted⟩ := all
  constructor
  · intro goal
    cases hp : run.progress? goal with
    | none =>
      rw [courses.uncalled goal hp]
      exact Run.spaced_nil
    | some progress => exact (courses.tasks goal progress hp).spaced
  · intro goal called
    exact Run.exists_end sound tallied called
  · intro goal result finished called
    exact tallied.undertakes courses finished called
  · exact counted
  · exact counted.balance

/-- Under every schedule calls are no sooner than the delays allow. -/
theorem Reaches.courses (reaches : setting.Reaches world run) :
  run.Each (Run.Course setting (· ≤ ·))
  := by
  have both : run.Sound setting ∧ run.Each (Run.Course setting (· ≤ ·)) := by
    apply reaches.invariant fun run => run.Sound setting ∧ run.Each (Run.Course setting (· ≤ ·))
    · exact ⟨setting.sound_requested world, .requested .ready setting world⟩
    · rintro run next goal ⟨sound, courses⟩ h
      obtain ⟨before, after, new, moves⟩ := sound.moves h
      exact ⟨(sound.step h).1, courses.moves .ready sound moves fun course =>
        course.move meeting_le moves.move moves.due⟩
    · rintro run later ⟨sound, courses⟩
      exact ⟨(sound.wait later).1, courses.wait .ready sound later⟩
    · rintro run ⟨sound, courses⟩
      exact ⟨(sound.removing _).1, courses.removing .ready sound _⟩
  exact both.2

end Setting

/-- The tasks of declared resources wait only for each other, when the template has a graph. -/
theorem Setting.confined_requested {setting : Setting σ} {graph : Graph}
    (built : setting.desired.graph = .ok graph) :
  setting.Confined (setting.desired.resources.names.map .update) (fun _ _ => True)
    fun run => ∀ id, run.progress? (.delete id) = none
  := by
  constructor
  · intro run next goal absent h
    exact Run.no_deletion_step absent h
  · intro run later absent id
    rw [Run.progress?_wait, absent]
  · intro run goal before on awaited answers absent hb move other ho
    cases goal with
    | delete id => cases (absent id).symm.trans hb
    | update id =>
      refine ⟨List.mem_map_of_mem ?_, trivial⟩
      rw [← Table.contains_iff, ← Template.isResource]
      obtain ⟨resource, declared, preceding | ⟨resolution, evaluated, unresolved⟩⟩ := move.waiting_update
      · rw [preceding] at ho
        have edge : graph.Edge id other :=
          (Template.mem_edges_graph built _ _).mpr ⟨resource, declared, List.mem_append_right _ ho⟩
        exact (Template.mem_nodes_graph built other).mp edge.mem_nodes
      · apply Template.isResource_of_mem_unresolved evaluated
        exact List.mem_filterMap.mpr ⟨_, unresolved other ho, rfl⟩

namespace Run

variable {setting : Setting σ} {run : Run σ}

/-- Where nothing is due, every task that has called a provider has come to its end. -/
theorem Tallied.settled (tallied : run.Tallied setting) (earliest : run.earliest? = none) :
  run.Settled
  := by
  intro goal called
  cases hp : run.progress? goal with
  | none => exact absurd (tallied.unasked goal hp) called
  | some progress =>
    obtain ⟨result, rfl⟩ | ⟨due, hd⟩ := (tallied.tasks goal progress hp).called called
    · rw [result?_eq_some.mpr hp]
      rfl
    · rw [due?_eq_none_of_earliest? earliest hp] at hd
      cases hd

/-- Beginning to remove resources loses no time. -/
theorem Prompt.removing (prompt : run.Prompt setting) (ids : List String) :
  (run.removing ids).Prompt setting
  := by
  have now : (run.removing ids).now = run.now := by
    obtain ⟨_, _, he⟩ := requests_eq { run with doomed := ids } (ids.map Goal.delete)
    rw [Run.removing, he]
  exact ⟨(prompt.sound.removing ids).1, prompt.punctual.of_kept (run.kept_removing ids) now,
    prompt.courses.removing .ready prompt.sound ids⟩

end Run

/-! ### Runs as they are driven -/

namespace Setting

variable {setting : Setting σ} {run : Run σ} {roots : List Goal}

/-- A run that is about some tasks, driven as far as it goes. -/
def driven (setting : Setting σ) (roots : List Goal) (run : Run σ) : Run σ :=
  run.drive setting roots (setting.budget roots)

theorem leads_driven (setting : Setting σ) (roots : List Goal) (run : Run σ) :
  ∃ count, Run.Leads setting run count (setting.driven roots run)
  := Run.leads_drive setting run roots _

theorem prompt_driven (prompt : run.Prompt setting) (roots : List Goal) :
  (setting.driven roots run).Prompt setting
  := prompt.drive roots _

/-- When a run has been driven as far as it goes, nothing is due any more. -/
theorem earliest?_driven {Lower : Goal → Goal → Prop} {within : Run σ → Prop}
    (confined : setting.Confined roots Lower within) (orderly : run.Orderly setting roots Lower)
    (holds : within run) :
  (setting.driven roots run).earliest? = none
  := (orderly.stops_drive confined _ holds (.inl (run.potential_lt_budget setting roots))).2

/-- Removals are driven until nothing is due, even when tasks wait for themselves. -/
theorem earliest?_driven_removing (ended : run.isOver) (ids : List String) :
  (setting.driven (ids.map .delete) (run.removing ids)).earliest? = none
  := by
  obtain ⟨orderly, updated⟩ := orderly_removing ended ids _
  exact earliest?_driven (setting.confined_removing ids) orderly ⟨run.doomed_removing ids, updated⟩

end Setting

namespace Stack

variable {stack : Stack σ} {template : Template} {inputs : Inputs} {world : σ}

/-- An update as it is driven brings the declared resources up to date, and may go on to remove others. -/
theorem updateRun_cases (stack : Stack σ) (template : Template) (inputs : Inputs) (world : σ) :
  let setting := stack.updateSetting template inputs
  let middle := setting.driven (template.resources.names.map .update) (setting.requested world)
  stack.updateRun template inputs world = middle
    ∨ middle.isOver ∧ middle.failures (template.resources.names.map .update) = []
      ∧ stack.updateRun template inputs world
        = setting.driven (setting.removals.map .delete) (middle.removing setting.removals)
  := by
  intro setting middle
  have updated : stack.updateRun template inputs world
      = if middle.isOver && (middle.failures (template.resources.names.map .update)).isEmpty
        then setting.driven (setting.removals.map .delete) (middle.removing setting.removals) else middle := rfl
  rw [updated]
  split
  · next goesOn =>
    obtain ⟨ended, unfailed⟩ := Bool.and_eq_true_iff.mp goesOn
    exact .inr ⟨ended, List.isEmpty_iff.mp unfailed, rfl⟩
  · exact .inl rfl

theorem deleteRun_eq (stack : Stack σ) (world : σ) :
  stack.deleteRun world = stack.deleteSetting.driven (stack.deleteSetting.removals.map .delete)
    ((stack.deleteSetting.start world).removing stack.deleteSetting.removals)
  := rfl

/-- An update as it is driven follows a schedule, and loses no time. -/
theorem reaches_updateRun (stack : Stack σ) (template : Template) (inputs : Inputs) (world : σ) :
  (stack.updateSetting template inputs).Reaches world (stack.updateRun template inputs world)
    ∧ (stack.updateRun template inputs world).Prompt (stack.updateSetting template inputs)
  := by
  let setting := stack.updateSetting template inputs
  obtain ⟨count, leads⟩ :=
    setting.leads_driven (template.resources.names.map .update) (setting.requested world)
  have prompt := setting.prompt_driven (.requested setting world) (template.resources.names.map .update)
  obtain updated | ⟨ended, unfailed, removed⟩ := stack.updateRun_cases template inputs world
  · rw [updated]
    exact ⟨.updating leads, prompt⟩
  · rw [removed]
    obtain ⟨count', leads'⟩ := setting.leads_driven (setting.removals.map .delete) _
    exact ⟨.removing leads ended unfailed leads', Setting.prompt_driven (prompt.removing _) _⟩

theorem reaches_deleteRun (stack : Stack σ) (world : σ) :
  stack.deleteSetting.Reaches world (stack.deleteRun world) ∧ (stack.deleteRun world).Prompt stack.deleteSetting
  := by
  let setting := stack.deleteSetting
  obtain ⟨count, leads⟩ := setting.leads_driven (setting.removals.map .delete) _
  have prompt : (setting.start world).Prompt setting := Run.Prompt.requested setting world
  rw [deleteRun_eq]
  exact ⟨.removing .here rfl rfl leads, Setting.prompt_driven (prompt.removing _) _⟩

/-- An update leaves no call without its end, when the template has a graph. -/
theorem settled_updateRun {graph : Graph} (built : template.graph = .ok graph) (inputs : Inputs) (world : σ) :
  (stack.updateRun template inputs world).Settled
  := by
  obtain ⟨reaches, -⟩ := stack.reaches_updateRun template inputs world
  apply reaches.tallied.settled
  let setting := stack.updateSetting template inputs
  obtain updated | ⟨ended, -, removed⟩ := stack.updateRun_cases template inputs world
  · rw [updated]
    have confined : setting.Confined (template.resources.names.map .update) (fun _ _ => True) _ :=
      Setting.confined_requested built
    exact Setting.earliest?_driven confined (setting.orderly_requested _ world)
      (setting.no_deletion_requested world)
  · rw [removed]
    exact Setting.earliest?_driven_removing ended setting.removals

theorem settled_deleteRun (stack : Stack σ) (world : σ) :
  (stack.deleteRun world).Settled
  := by
  obtain ⟨reaches, -⟩ := stack.reaches_deleteRun world
  apply reaches.tallied.settled
  rw [deleteRun_eq]
  exact Setting.earliest?_driven_removing rfl stack.deleteSetting.removals

/-- Whatever the configuration, the policies and the answers of providers are, they are called again in updates and
deletions until the first success, at the delays of the schedule and no more often than allowed, and every operation is
counted. -/
theorem perseveres (stack : Stack σ) (template : Template) (inputs : Inputs) (world : σ) :
  (∀ run, (stack.updateSetting template inputs).Reaches world run →
      run.Perseveres (stack.updateSetting template inputs) (· ≤ ·))
    ∧ (stack.updateRun template inputs world).Perseveres (stack.updateSetting template inputs) (· = ·)
    ∧ (∀ graph, template.graph = .ok graph → (stack.updateRun template inputs world).Settled)
    ∧ (stack.deleteRun world).Perseveres stack.deleteSetting (· = ·)
    ∧ (stack.deleteRun world).Settled
  := by
  refine ⟨fun run reaches => reaches.perseveres_of_courses reaches.courses, ?_, ?_, ?_, stack.settled_deleteRun world⟩
  · obtain ⟨reaches, prompt⟩ := stack.reaches_updateRun template inputs world
    exact reaches.perseveres_of_courses prompt.courses
  · intro graph built
    exact settled_updateRun built inputs world
  · obtain ⟨reaches, prompt⟩ := stack.reaches_deleteRun world
    exact reaches.perseveres_of_courses prompt.courses

/-- A stack whose provider refuses the first request that it gets, and takes five milliseconds for each. -/
def flaky : Stack Nat where
  config := {}
  providers :=
    { default := some fun _ =>
        { retryPolicy := .always
          duration := fun _ => 5
          answer := fun request asked =>
            if asked = 0 then (.error ["busy"], 1)
            else (.ok { resource := { type := request.type, physicalId := some request.logicalId } }, asked + 1) } }

/-- A call that was refused is repeated after a second, and counted as a retry of one operation. -/
theorem perseveres_flaky :
  (∃ run, (flaky.updateSetting .chained {}).Reaches 0 run
      ∧ (run.callsOf (.update "Base")).map (·.start) = [0, 1005]
      ∧ (run.result? (.update "Base")).any Except.isOk
      ∧ run.metrics.get? "T" = some { operations := 1, attempts := 2, retries := 1, duration := 1010 }
      ∧ run.Perseveres (flaky.updateSetting .chained {}) (· ≤ ·))
    ∧ (flaky.updateRun .chained {} 0).Perseveres (flaky.updateSetting .chained {}) (· = ·)
    ∧ (flaky.updateRun .chained {} 0).Settled
  := by
  obtain ⟨anyway, driven, settled, -⟩ := perseveres flaky .chained {} 0
  have built : Template.chained.graph = .ok ((Graph.ofNodes ["Base", "Top"]).addEdge "Top" "Base") := by cbv
  let setting := flaky.updateSetting .chained {}
  have made : ((setting.requested 0).stepsAt? setting
      [(0, .update "Base"), (0, .update "Base"), (5, .update "Base"), (1005, .update "Base"),
        (1010, .update "Base")]).any fun run =>
          (run.callsOf (.update "Base")).map (·.start) = [0, 1005]
            && (run.result? (.update "Base")).any Except.isOk
            && run.metrics.get? "T" = some { operations := 1, attempts := 2, retries := 1, duration := 1010 } := by
    decide +kernel
  obtain ⟨run, scheduled, holds⟩ := (Option.any_eq_true _ _).mp made
  simp only [Bool.and_eq_true, decide_eq_true_eq] at holds
  obtain ⟨⟨starts, succeeded⟩, counted⟩ := holds
  obtain ⟨count, leads⟩ := Run.leads_stepsAt? scheduled
  have reaches : setting.Reaches 0 run := .updating leads
  exact ⟨⟨run, reaches, starts, succeeded, counted, anyway run reaches⟩, driven, settled _ built⟩

end Stack

end Reconcile
