import Reconcile.Run.Step

/-!
# Driving a run

A run is driven by looking for a task that can take a step, in the order in which tasks were
asked for and with the tasks that one waits for right after it.  When there is none, time passes
until the next answer of a provider or the next attempt.
-/

namespace Reconcile

namespace Run

variable {σ : Type} (setting : Setting σ)

theorem length_erase_goal_lt {goals : List Goal} {goal : Goal} (h : goal ∈ goals) :
  (goals.erase goal).length < goals.length
  := by
  rw [List.length_erase_of_mem h]
  have := List.length_pos_of_mem h
  omega

/-- Look for a step among some tasks and those they wait for; `unseen` are the tasks that have not
been looked at. -/
def firstStep? (run : Run σ) (unseen : List Goal) : List Goal → Option (Run σ)
  | [] => none
  | goal :: rest =>
    if _h : goal ∈ unseen then
      match run.step? setting goal with
      | some next => some next
      | none =>
        let waitsOn := ((run.progress? goal).map Progress.waitsOn).getD []
        firstStep? run (unseen.erase goal) (waitsOn.map goal.withId ++ rest)
    else firstStep? run unseen rest
termination_by stack => (unseen.length, stack.length)
decreasing_by
  · apply Prod.Lex.left
    apply length_erase_goal_lt
    assumption
  · apply Prod.Lex.right
    simp

/-- Drive a run that is about some tasks until nothing can happen any more, for at most a number of
steps. -/
def drive (roots : List Goal) : Nat → Run σ → Run σ
  | 0, run => run
  | fuel + 1, run =>
    match run.firstStep? setting run.goals roots with
    | some next => drive roots fuel next
    | none =>
      match run.earliest? with
      | some due => drive roots fuel { run with now := max run.now due }
      | none => run

end Run

namespace Setting

variable {σ : Type} (setting : Setting σ)

/-- A number of logical ids that no run exceeds. -/
def breadth (roots : List Goal) : Nat :=
  roots.length + setting.desired.resources.size
    + (setting.desired.resources.values.map fun resource => resource.dependsOn.length).foldr (· + ·) 0
    + setting.previous.graph.nodes.length

/-- A number of steps, passing of time included, that no run exceeds. -/
def budget (roots : List Goal) : Nat :=
  2 * setting.breadth roots * (setting.breadth roots + 2 * setting.config.retry.maxAttempts + 5) + 1

/-- A run that has not begun. -/
def start (_ : Setting σ) (world : σ) : Run σ := { world }

/-- Bring some declared resources up to date, all at the same time. -/
def updateAll (logicalIds : List String) (run : Run σ) : Run σ :=
  let roots := logicalIds.map Goal.update
  (roots.foldl Run.request run).drive setting roots (setting.budget roots)

/-- Delete some recorded resources, each after those of them that depend on it. -/
def deleteAll (logicalIds : List String) (run : Run σ) : Run σ :=
  let roots := logicalIds.map Goal.delete
  (roots.foldl Run.request { run with doomed := logicalIds }).drive setting roots (setting.budget roots)

end Setting

end Reconcile
