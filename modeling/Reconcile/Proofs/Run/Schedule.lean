import Reconcile.Proofs.Run.Moves
import Reconcile.Run.Drive

/-!
# Schedules

Tasks may go on in any order, and time may pass between their steps as it likes.  A run leads to
another when some schedule takes it there; driving a run follows one of the schedules.
-/

namespace Reconcile

variable {σ : Type} {setting : Setting σ}

namespace Run

/-- A run leads to another by a number of steps of tasks, with time passing in between. -/
inductive Leads (setting : Setting σ) (first : Run σ) : Nat → Run σ → Prop where
  | here : Leads setting first 0 first
  | step {count : Nat} {run next : Run σ} {goal : Goal} (before : Leads setting first count run)
      (h : run.step? setting goal = some next) :
    Leads setting first (count + 1) next
  | wait {count : Nat} {run : Run σ} {later : Nat} (before : Leads setting first count run)
      (h : run.now ≤ later) :
    Leads setting first count { run with now := later }

theorem Leads.trans {first middle last : Run σ} {count count' : Nat}
    (before : Leads setting first count middle) (after : Leads setting middle count' last) :
  Leads setting first (count + count') last
  := by
  induction after with
  | here => apply before
  | step _ h ih => apply ih.step h
  | wait _ h ih => apply ih.wait h

@[simp]
theorem progress?_wait (run : Run σ) (later : Nat) (goal : Goal) :
  ({ run with now := later } : Run σ).progress? goal = run.progress? goal
  := by
  cases goal with
  | update logicalId => rfl
  | delete logicalId => rfl

@[simp]
theorem result?_wait (run : Run σ) (later : Nat) (goal : Goal) :
  ({ run with now := later } : Run σ).result? goal = run.result? goal
  := by
  rw [result?, progress?_wait, result?]

/-- What holds at first and is kept by steps and by waiting holds ever after. -/
theorem Leads.invariant (holds : Run σ → Prop) {first run : Run σ} {count : Nat}
    (step : ∀ run next goal, holds run → run.step? setting goal = some next → holds next)
    (wait : ∀ run later, holds run → holds { run with now := later })
    (h : holds first) (leads : Leads setting first count run) :
  holds run
  := by
  induction leads with
  | here => apply h
  | step _ hs ih => apply step _ _ _ ih hs
  | wait _ _ ih => apply wait _ _ ih

/-! ### What stays -/

theorem result?_eq_some {run : Run σ} {goal : Goal} {result : Except StackError Outcome} :
  run.result? goal = some result ↔ run.progress? goal = some (.finished result)
  := by
  unfold result?
  cases run.progress? goal with
  | none => simp
  | some progress => cases progress <;> simp [Progress.result?]

/-- A task that has finished takes no step. -/
theorem Move.unfinished {run : Run σ} {goal : Goal} {before after : Progress} {answers : List Exchange}
    (move : Move setting run goal before after answers) :
  before.result? = none
  := by
  cases move with
  | _ => rfl

/-- The task of a step had not finished. -/
theorem result?_of_step {run next : Run σ} {goal : Goal} (h : run.step? setting goal = some next) :
  run.result? goal = none
  := by
  obtain ⟨before, after, answers, hb, move, -, -⟩ := step?_spec h
  rw [result?, hb]
  apply move.unfinished

/-- What a task has come to stays. -/
theorem result?_step {run next : Run σ} {goal other : Goal} {result : Except StackError Outcome}
    (h : run.step? setting goal = some next) (finished : run.result? other = some result) :
  next.result? other = some result
  := by
  have hne : other ≠ goal := by
    rintro rfl
    rw [result?_of_step h] at finished
    cases finished
  obtain ⟨_, _, _, -, -, entered, -⟩ := step?_spec h
  rw [result?_eq_some] at finished ⊢
  rw [entered.progress?_eq, if_neg hne, finished]
  rfl

theorem Leads.result? {first run : Run σ} {count : Nat} (leads : Leads setting first count run) {goal : Goal}
    {result : Except StackError Outcome} (finished : first.result? goal = some result) :
  run.result? goal = some result
  := by
  apply leads.invariant fun run => run.result? goal = some result
  · intro run next other h hs
    apply result?_step hs h
  · intro run later h
    rw [result?_wait]
    apply h
  · apply finished

/-! ### Tasks -/

theorem mem_goals {run : Run σ} {goal : Goal} :
  goal ∈ run.goals ↔ ∃ progress, run.progress? goal = some progress
  := by
  cases goal with
  | update logicalId => simp [goals, progress?, Table.exists_get?_iff]
  | delete logicalId => simp [goals, progress?, Table.exists_get?_iff]

theorem isOver_iff {run : Run σ} :
  run.isOver ↔ ∀ goal progress, run.progress? goal = some progress → (run.result? goal).isSome
  := by
  simp only [isOver, List.all_eq_true, mem_goals, forall_exists_index]

/-- The time that a run waits for is that of one of its tasks. -/
theorem exists_due_of_earliest? {run : Run σ} {due : Nat} (h : run.earliest? = some due) :
  ∃ goal progress, run.progress? goal = some progress ∧ progress.due? = some due
  := by
  obtain ⟨progress, hm, hd⟩ := List.mem_filterMap.mp (List.min?_mem h)
  obtain hm | hm := List.mem_append.mp hm
  · obtain ⟨logicalId, hp⟩ := (Table.mem_values _ _).mp hm
    exact ⟨.update logicalId, progress, hp, hd⟩
  · obtain ⟨logicalId, hp⟩ := (Table.mem_values _ _).mp hm
    exact ⟨.delete logicalId, progress, hp, hd⟩

/-- When it waits for none, no task has a time. -/
theorem due?_eq_none_of_earliest? {run : Run σ} (h : run.earliest? = none) {goal : Goal} {progress : Progress}
    (hp : run.progress? goal = some progress) :
  progress.due? = none
  := by
  have none := List.filterMap_eq_nil_iff.mp (List.min?_eq_none_iff.mp h)
  apply none
  cases goal with
  | update logicalId => apply List.mem_append_left _ ((Table.mem_values _ _).mpr ⟨logicalId, hp⟩)
  | delete logicalId => apply List.mem_append_right _ ((Table.mem_values _ _).mpr ⟨logicalId, hp⟩)

/-- Once all tasks have finished, only time passes. -/
theorem Leads.eq_of_isOver {first run : Run σ} {count : Nat} (leads : Leads setting first count run)
    (ended : first.isOver) :
  ∃ later, run = { first with now := later }
  := by
  induction leads with
  | here => exact ⟨first.now, rfl⟩
  | @step _ run next goal _ h ih =>
    obtain ⟨later, rfl⟩ := ih
    obtain ⟨before, _, _, hb, -⟩ := step?_spec h
    rw [progress?_wait] at hb
    have finished := isOver_iff.mp ended goal before hb
    rw [← result?_wait first later, result?_of_step h] at finished
    cases finished
  | @wait _ _ later _ _ ih =>
    obtain ⟨_, rfl⟩ := ih
    exact ⟨later, rfl⟩

/-! ### Driving -/

/-- What the search for a step finds is a step. -/
theorem step?_of_firstStep? {run next : Run σ} {unseen stack : List Goal}
    (h : run.firstStep? setting unseen stack = some next) :
  ∃ goal, run.step? setting goal = some next
  := by
  induction unseen, stack using firstStep?.induct setting run with
  | case1 unseen =>
    rw [firstStep?] at h
    cases h
  | case2 unseen goal rest hm next' hs =>
    rw [firstStep?, dif_pos hm, hs] at h
    cases h
    exact ⟨goal, hs⟩
  | case3 unseen goal rest hm hs waitsOn ih =>
    rw [firstStep?, dif_pos hm, hs] at h
    apply ih h
  | case4 unseen goal rest hm ih =>
    rw [firstStep?, dif_neg hm] at h
    apply ih h

/-- When the search finds none, none of the tasks that were looked for can take a step. -/
theorem step?_eq_none_of_firstStep? {run : Run σ} {unseen stack : List Goal}
    (h : run.firstStep? setting unseen stack = none) :
  ∀ goal ∈ stack, goal ∈ unseen → run.step? setting goal = none
  := by
  induction unseen, stack using firstStep?.induct setting run with
  | case1 unseen => simp
  | case2 unseen goal rest hm next hs =>
    rw [firstStep?, dif_pos hm, hs] at h
    cases h
  | case3 unseen goal rest hm hs waitsOn ih =>
    rw [firstStep?, dif_pos hm, hs] at h
    intro other ho hu
    by_cases he : other = goal
    · apply he ▸ hs
    · have hr : other ∈ rest := (List.mem_cons.mp ho).resolve_left he
      apply ih h other (List.mem_append_right _ hr) ((List.mem_erase_of_ne he).mpr hu)
  | case4 unseen goal rest hm ih =>
    rw [firstStep?, dif_neg hm] at h
    intro other ho hu
    obtain rfl | hr := List.mem_cons.mp ho
    · exact absurd hu hm
    · apply ih h other hr hu

/-- Driving a run follows a schedule. -/
theorem leads_drive (setting : Setting σ) (run : Run σ) (roots : List Goal) (fuel : Nat) :
  ∃ count, Leads setting run count (run.drive setting roots fuel)
  := by
  induction fuel generalizing run with
  | zero => exact ⟨0, .here⟩
  | succ fuel ih =>
    rw [drive]
    split
    · next next found =>
      obtain ⟨goal, hs⟩ := step?_of_firstStep? found
      obtain ⟨count, leads⟩ := ih next
      exact ⟨_, (Leads.here.step hs).trans leads⟩
    · split
      · next due _ =>
        obtain ⟨count, leads⟩ := ih { run with now := max run.now due }
        exact ⟨_, (Leads.here.wait (Nat.le_max_left _ _)).trans leads⟩
      · exact ⟨0, .here⟩

/-- Let tasks take a step in turn. -/
def steps? (setting : Setting σ) (run : Run σ) (goals : List Goal) : Option (Run σ) :=
  goals.foldlM (step? setting) run

/-- Steps in turn are a schedule. -/
theorem leads_steps? {run last : Run σ} {goals : List Goal} (h : run.steps? setting goals = some last) :
  ∃ count, Leads setting run count last
  := by
  induction goals generalizing run with
  | nil =>
    obtain rfl := Option.some.inj h
    exact ⟨0, .here⟩
  | cons goal rest ih =>
    obtain ⟨next, hs, h⟩ := Option.bind_eq_some_iff.mp h
    obtain ⟨count, leads⟩ := ih h
    exact ⟨_, (Leads.here.step hs).trans leads⟩

/-- Let tasks take a step in turn, each no sooner than at some time. -/
def stepsAt? (setting : Setting σ) (run : Run σ) (plan : List (Nat × Goal)) : Option (Run σ) :=
  plan.foldlM (fun run step => ({ run with now := max run.now step.1 } : Run σ).step? setting step.2) run

theorem leads_stepsAt? {run last : Run σ} {plan : List (Nat × Goal)} (h : run.stepsAt? setting plan = some last) :
  ∃ count, Leads setting run count last
  := by
  induction plan generalizing run with
  | nil =>
    obtain rfl := Option.some.inj h
    exact ⟨0, .here⟩
  | cons step rest ih =>
    obtain ⟨next, hs, h⟩ := Option.bind_eq_some_iff.mp h
    obtain ⟨count, leads⟩ := ih h
    exact ⟨_, ((Leads.here.wait (Nat.le_max_left _ _)).step hs).trans leads⟩

/-- Bringing resources up to date asks for no removals. -/
theorem no_deletion_step {run next : Run σ} {goal : Goal} (absent : ∀ id, run.progress? (.delete id) = none)
    (h : run.step? setting goal = some next) (id : String) :
  next.progress? (.delete id) = none
  := by
  obtain ⟨before, after, _, hb, -, entered, -⟩ := step?_spec h
  cases goal with
  | delete other => cases (absent other).symm.trans hb
  | update other =>
    rw [entered.progress?_eq, absent]
    simp

end Run

namespace Setting

/-! ### The beginning -/

/-- The run that brings the declared resources up to date, when it begins. -/
def requested (setting : Setting σ) (world : σ) : Run σ :=
  (setting.desired.resources.names.map Goal.update).foldl Run.request (setting.start world)

theorem progress?_requested (world : σ) (goal : Goal) :
  (setting.requested world).progress? goal
    = if goal ∈ setting.desired.resources.names.map Goal.update then some .ready else none
  := by
  have fresh : (setting.start world).progress? goal = none := by
    cases goal with
    | update logicalId => rfl
    | delete logicalId => rfl
  rw [requested, Run.progress?_requests, fresh, Option.none_or]

/-- Nothing is removed when an update begins. -/
theorem no_deletion_requested (setting : Setting σ) (world : σ) (id : String) :
  (setting.requested world).progress? (.delete id) = none
  := by simp [progress?_requested]

/-- Nothing is over before the first step. -/
theorem result?_requested (world : σ) (goal : Goal) :
  (setting.requested world).result? goal = none
  := by
  rw [Run.result?, progress?_requested]
  split
  · rfl
  · rfl

end Setting

/-- While declared resources are brought up to date, no resource is removed. -/
theorem Run.Leads.no_deletion {world : σ} {count : Nat} {run : Run σ}
    (leads : Leads setting (setting.requested world) count run) (id : String) :
  run.progress? (.delete id) = none
  := by
  revert id
  apply leads.invariant fun run => ∀ id, run.progress? (.delete id) = none
  · intro run next goal absent h
    apply no_deletion_step absent h
  · intro run later absent id
    rw [progress?_wait, absent]
  · apply setting.no_deletion_requested

end Reconcile
