import Mathlib
import Reconcile.Proofs.Evaluation.Reads
import Reconcile.Proofs.Graph.Coverage
import Reconcile.Proofs.Graph.Cycles
import Reconcile.Proofs.Run.Decisions
import Reconcile.Proofs.Run.Schedule

/-!
# Runs come to their end

Every move brings a task nearer to its end.  When tasks wait for lower ones only, in an order in
which nothing goes down forever, a run cannot go on forever, whatever the schedule, and until
all its tasks have finished one of them can go on.  When the graph of a template has no cycles and
an edge for everything that its properties read, bringing its resources up to date is such a run.
-/

namespace Reconcile

variable {σ : Type}

namespace Setting

variable (setting : Setting σ)

/-! ### Moves bring a task nearer to its end -/

/-- A task rests only between attempts. -/
def Rests : Progress → Prop
  | .resting _ attempt _ _ => attempt < setting.attempts
  | _ => True

/-- A bound on the number of steps that a task has still to take. -/
def rank : Progress → Nat
  | .ready => setting.desired.resources.names.length + 2 * setting.attempts + 2
  | .waiting _ awaited =>
    (setting.desired.resources.names.filter (!awaited.contains ·)).length + 2 * setting.attempts + 1
  | .calling _ attempt _ _ => 2 * (setting.attempts - attempt) + 2
  | .resting _ attempt _ _ => 2 * (setting.attempts - attempt) + 1
  | .finished _ => 0

theorem rank_le (progress : Progress) :
  setting.rank progress ≤ setting.rank .ready
  := by
  cases progress with
  | waiting on awaited =>
    have := List.length_filter_le (!awaited.contains ·) setting.desired.resources.names
    simp only [rank]
    omega
  | _ =>
    simp only [rank]
    omega

variable {setting}

/-- Waiting for something new brings a task nearer to its end. -/
theorem rank_waiting_lt {on pending awaited : List String} (nonempty : pending ≠ [])
    (fresh : ∀ id ∈ pending, id ∉ awaited) (declared : ∀ id ∈ pending, id ∈ setting.desired.resources.names) :
  setting.rank (.waiting pending (awaited ++ pending)) < setting.rank (.waiting on awaited)
  := by
  obtain ⟨id, hid⟩ := List.exists_mem_of_ne_nil pending nonempty
  have split : setting.desired.resources.names.filter (!(awaited ++ pending).contains ·)
      = (setting.desired.resources.names.filter (!awaited.contains ·)).filter (!pending.contains ·) := by
    rw [List.filter_filter]
    congr 1
    funext other
    simp [Bool.and_comm]
  have fewer : ((setting.desired.resources.names.filter (!awaited.contains ·)).filter
      (!pending.contains ·)).length
      < (setting.desired.resources.names.filter (!awaited.contains ·)).length := by
    apply List.length_filter_lt_length_iff_exists.mpr
    use id
    simp [hid, fresh id hid, declared id hid]
  simp only [rank, split]
  omega

/-- A call that may be repeated has not used up its attempts. -/
theorem attempt_lt_of_delay? {provider : Provider σ} {request : Request} {attempt delay : Nat}
    (h : setting.delay? provider request attempt = some delay) :
  attempt < setting.attempts
  := by
  unfold delay? at h
  split at h
  · unfold Retry.delay? at h
    split at h
    · next earlier =>
      unfold attempts
      simp only [Retry.retries] at earlier
      omega
    · cases h
  · cases h

variable (setting)

/-- A task that has finished is at its end, which is nearer than anything else. -/
theorem advance_finished (result : Except StackError Outcome) {bound : Nat} (h : 0 < bound) :
  setting.Rests (.finished result) ∧ setting.rank (.finished result) < bound
  := ⟨trivial, h⟩

theorem advance_call (request : Request) (now attempt since : Nat) {bound : Nat}
    (h : 2 * (setting.attempts - attempt) + 2 < bound) :
  setting.Rests (setting.call now request attempt since)
    ∧ setting.rank (setting.call now request attempt since) < bound
  := by
  obtain ⟨provider, -, hc⟩ | ⟨error, -, hc⟩ := setting.call_cases now request attempt since
  · rw [hc]
    exact ⟨trivial, h⟩
  · rw [hc]
    apply setting.advance_finished
    omega

theorem advance_begin (run : Run σ) (goal : Goal) :
  setting.Rests (setting.begin run goal) ∧ setting.rank (setting.begin run goal) < setting.rank .ready
  := by
  have positive : 0 < setting.rank .ready := by simp [rank]
  have waiting (on : List String) :
      setting.Rests (.waiting on []) ∧ setting.rank (.waiting on []) < setting.rank .ready :=
    ⟨trivial, by simp [rank]⟩
  unfold begin
  split
  · split
    · apply setting.advance_finished _ positive
    · split
      · apply setting.advance_finished _ positive
      · apply setting.advance_finished _ positive
      · apply waiting
  · split
    · split
      · apply setting.advance_finished _ positive
      · apply setting.advance_finished _ positive
      · apply waiting
    · apply setting.advance_finished _ positive

theorem advance_proceed (run : Run σ) (goal : Goal) (on awaited : List String) :
  setting.Rests (setting.proceed run awaited goal)
    ∧ setting.rank (setting.proceed run awaited goal) < setting.rank (.waiting on awaited)
  := by
  have positive : 0 < setting.rank (.waiting on awaited) := by simp [rank]
  have call (request : Request) : setting.Rests (setting.call run.now request 1 run.now)
      ∧ setting.rank (setting.call run.now request 1 run.now) < setting.rank (.waiting on awaited) := by
    apply setting.advance_call
    simp only [rank, attempts]
    omega
  unfold proceed
  split
  · split
    · apply setting.advance_finished _ positive
    · next resource declared =>
      split
      · apply setting.advance_finished _ positive
      · next progress evaluated =>
        obtain ⟨resolution, resolved, ⟨-, applied⟩ | ⟨pending, nonempty, hp, rfl⟩⟩ := evaluate_eq_ok evaluated
        · obtain ⟨properties, decision, -, ⟨-, previous, -, rfl⟩ | ⟨-, rfl⟩⟩ := apply_eq_ok applied
          · apply setting.advance_finished _ positive
          · apply call
        · refine ⟨trivial, rank_waiting_lt nonempty ?_ ?_⟩
          · intro id hid
            rw [hp] at hid
            simpa using (List.mem_filter.mp hid).2
          · intro id hid
            rw [hp] at hid
            rw [← Table.contains_iff]
            apply Template.isResource_of_mem_unresolved resolved (List.mem_of_mem_filter hid)
  · split
    · apply setting.advance_finished _ positive
    · apply call

variable {setting}

theorem advance_move {run : Run σ} {goal : Goal} {before after : Progress} {answers : List Exchange}
    (rests : setting.Rests before) (move : Run.Move setting run goal before after answers) :
  setting.Rests after ∧ setting.rank after < setting.rank before
  := by
  cases move with
  | begun => apply setting.advance_begin
  | blocked ended failed => apply setting.advance_finished _ (by simp [rank])
  | proceeded ended unfailed => apply setting.advance_proceed
  | unserved missing => apply setting.advance_finished _ (by simp [rank])
  | succeeded serving answer => apply setting.advance_finished _ (by simp [rank])
  | delayed serving answer again => exact ⟨attempt_lt_of_delay? again, by simp [rank]⟩
  | failed serving answer last => apply setting.advance_finished _ (by simp [rank])
  | @resumed request attempt since due =>
    have below : attempt < setting.attempts := rests
    apply setting.advance_call
    simp only [rank]
    omega

/-! ### Tasks that wait for lower ones -/

/-- In runs of some kind, which goes on when a task takes a step or time passes, the tasks `roots` wait only
for each other, and for lower ones. -/
structure Confined (setting : Setting σ) (roots : List Goal) (Lower : Goal → Goal → Prop)
    (within : Run σ → Prop) : Prop where
  step : ∀ run next goal, within run → run.step? setting goal = some next → within next
  wait : ∀ run later, within run → within { run with now := later }
  descends : ∀ run goal before on awaited answers, within run → run.progress? goal = some before →
    Run.Move setting run goal before (.waiting on awaited) answers →
    ∀ other ∈ on, goal.withId other ∈ roots ∧ Lower (goal.withId other) goal

/-- In such runs the tasks wait for lower ones in an order in which nothing goes down forever. -/
structure Paced (setting : Setting σ) (roots : List Goal) (Lower : Goal → Goal → Prop)
    (within : Run σ → Prop) : Prop where
  founded : ∀ goal ∈ roots, Acc Lower goal
  step : ∀ run next goal, within run → run.step? setting goal = some next → within next
  wait : ∀ run later, within run → within { run with now := later }
  descends : ∀ run goal before on awaited answers, within run → run.progress? goal = some before →
    Run.Move setting run goal before (.waiting on awaited) answers →
    ∀ other ∈ on, goal.withId other ∈ roots ∧ Lower (goal.withId other) goal

theorem Paced.confined {roots : List Goal} {Lower : Goal → Goal → Prop} {within : Run σ → Prop}
    (paced : setting.Paced roots Lower within) :
  setting.Confined roots Lower within
  := ⟨paced.step, paced.wait, paced.descends⟩

end Setting

namespace Run

variable {setting : Setting σ} {roots : List Goal} {Lower : Goal → Goal → Prop} {within : Run σ → Prop}

/-- The tasks `roots` are there, wait only for each other and for lower ones, and all others have finished. -/
structure Orderly (setting : Setting σ) (roots : List Goal) (Lower : Goal → Goal → Prop) (run : Run σ) :
    Prop where
  rooted : ∀ goal ∈ roots, ∃ progress, run.progress? goal = some progress
  settled : ∀ goal progress, run.progress? goal = some progress → goal ∈ roots ∨ progress.result?.isSome
  rests : ∀ goal progress, run.progress? goal = some progress → setting.Rests progress
  descends : ∀ goal progress, run.progress? goal = some progress → ∀ other ∈ progress.waitsOn,
    goal.withId other ∈ roots ∧ Lower (goal.withId other) goal

/-- A bound on the number of steps that some tasks have still to take. -/
def potential (setting : Setting σ) (roots : List Goal) (run : Run σ) : Nat :=
  (roots.map fun goal => ((run.progress? goal).map setting.rank).getD 0).sum

theorem Orderly.wait {run : Run σ} (orderly : run.Orderly setting roots Lower) (later : Nat) :
  ({ run with now := later } : Run σ).Orderly setting roots Lower
  := ⟨orderly.rooted, orderly.settled, orderly.rests, orderly.descends⟩

/-- In an orderly run a step is a move of one of the tasks; all others stay. -/
theorem Orderly.step_spec (confined : setting.Confined roots Lower within) {run next : Run σ} {goal : Goal}
    (orderly : run.Orderly setting roots Lower) (holds : within run) (h : run.step? setting goal = some next) :
  goal ∈ roots ∧ ∃ before after, run.progress? goal = some before
    ∧ setting.Rests after ∧ setting.rank after < setting.rank before
    ∧ (∀ other ∈ after.waitsOn, goal.withId other ∈ roots ∧ Lower (goal.withId other) goal)
    ∧ ∀ other, next.progress? other = if other = goal then some after else run.progress? other
  := by
  obtain ⟨before, after, answers, hb, move, entered, -⟩ := step?_spec h
  obtain ⟨rests, lower⟩ := Setting.advance_move (orderly.rests goal before hb) move
  have descends : ∀ other ∈ after.waitsOn, goal.withId other ∈ roots ∧ Lower (goal.withId other) goal := by
    intro other ho
    cases after with
    | waiting on awaited => apply confined.descends run goal before on awaited answers holds hb move other ho
    | _ => cases ho
  refine ⟨?_, before, after, hb, rests, lower, descends, ?_⟩
  · apply (orderly.settled goal before hb).resolve_right
    simp [move.unfinished]
  · intro other
    rw [entered.progress?_eq]
    split
    · rfl
    · split
      · -- What the task waits for has a task already.
        next asked =>
        obtain ⟨id, hid, rfl⟩ := List.mem_map.mp asked
        obtain ⟨progress, hp⟩ := orderly.rooted _ (descends id hid).1
        rw [hp]
        rfl
      · apply Option.or_none

theorem Orderly.step (confined : setting.Confined roots Lower within) {run next : Run σ} {goal : Goal}
    (orderly : run.Orderly setting roots Lower) (holds : within run) (h : run.step? setting goal = some next) :
  next.Orderly setting roots Lower
  := by
  obtain ⟨root, before, after, hb, rests, -, descends, progressed⟩ := orderly.step_spec confined holds h
  constructor
  · intro other ho
    rw [progressed]
    split
    · exact ⟨after, rfl⟩
    · apply orderly.rooted other ho
  · intro other progress hp
    rw [progressed] at hp
    split at hp
    · next he => exact .inl (he ▸ root)
    · apply orderly.settled other progress hp
  · intro other progress hp
    rw [progressed] at hp
    split at hp
    · cases hp
      apply rests
    · apply orderly.rests other progress hp
  · intro other progress hp
    rw [progressed] at hp
    split at hp
    · next he =>
      cases hp
      rw [he]
      apply descends
    · apply orderly.descends other progress hp

/-- Every step lowers the potential. -/
theorem Orderly.potential_lt (confined : setting.Confined roots Lower within) {run next : Run σ} {goal : Goal}
    (orderly : run.Orderly setting roots Lower) (holds : within run) (h : run.step? setting goal = some next) :
  next.potential setting roots < run.potential setting roots
  := by
  obtain ⟨root, before, after, hb, -, lower, -, progressed⟩ := orderly.step_spec confined holds h
  apply List.sum_lt_sum
  · intro other _
    rw [progressed]
    split
    · next he =>
      rw [he, hb]
      apply lower.le
    · apply le_refl _
  · use goal, root
    rw [progressed, if_pos rfl, hb]
    apply lower

theorem potential_wait (run : Run σ) (later : Nat) :
  ({ run with now := later } : Run σ).potential setting roots = run.potential setting roots
  := rfl

theorem potential_le (setting : Setting σ) (roots : List Goal) (run : Run σ) :
  run.potential setting roots ≤ roots.length * setting.rank .ready
  := by
  have bound := List.sum_le_card_nsmul
    (roots.map fun goal => ((run.progress? goal).map setting.rank).getD 0) (setting.rank .ready) ?_
  · simpa [potential] using bound
  · intro rank hr
    obtain ⟨goal, -, rfl⟩ := List.mem_map.mp hr
    cases run.progress? goal with
    | none => apply Nat.zero_le _
    | some progress => apply setting.rank_le progress

/-- The steps that a run is driven for are enough. -/
theorem potential_lt_budget (setting : Setting σ) (roots : List Goal) (run : Run σ) :
  2 * run.potential setting roots < setting.budget roots
  := by
  have le := run.potential_le setting roots
  have wide : roots.length + setting.desired.resources.names.length ≤ setting.breadth roots := by
    have : setting.desired.resources.size = setting.desired.resources.names.length :=
      (List.length_map _).symm
    simp only [Setting.breadth]
    omega
  have attempts : setting.attempts ≤ setting.config.retry.maxAttempts + 1 := by
    unfold Setting.attempts
    omega
  simp only [Setting.rank] at le
  unfold Setting.budget
  generalize setting.breadth roots = breadth at *
  generalize setting.desired.resources.names.length = n at *
  have : roots.length * (n + 2 * setting.attempts + 2)
      ≤ breadth * (breadth + 2 * setting.config.retry.maxAttempts + 5) := by
    apply Nat.mul_le_mul
    · omega
    · omega
  have double : 2 * (breadth * (breadth + 2 * setting.config.retry.maxAttempts + 5))
      = 2 * breadth * (breadth + 2 * setting.config.retry.maxAttempts + 5) := (Nat.mul_assoc _ _ _).symm
  omega

/-! ### Going on -/

/-- While nothing of a task is due and none can take a step, all tasks have finished. -/
theorem Orderly.isOver {run : Run σ} (orderly : run.Orderly setting roots Lower)
    (founded : ∀ goal ∈ roots, Acc Lower goal) (still : ∀ goal, run.step? setting goal = none)
    (due : ∀ goal progress, run.progress? goal = some progress →
      ∀ due, progress.due? = some due → due ≤ run.now) :
  run.isOver
  := by
  apply isOver_iff.mpr
  intro goal progress hp
  obtain root | finished := orderly.settled goal progress hp
  · -- Down along what tasks wait for.
    induction founded goal root generalizing progress with
    | intro goal _ ih =>
      by_contra unfinished
      rw [Bool.not_eq_true, Option.isSome_eq_false_iff, Option.isNone_iff_eq_none] at unfinished
      have step := (exists_step?_iff setting run goal).mpr ⟨progress, hp, ?_, ?_, due goal progress hp⟩
      · obtain ⟨next, step⟩ := step
        rw [still] at step
        cases step
      · rwa [result?, hp] at unfinished
      · intro other ho
        obtain ⟨root', lower⟩ := orderly.descends goal progress hp other ho
        obtain ⟨progress', hp'⟩ := orderly.rooted _ root'
        apply ih _ lower progress' hp' root'
  · rwa [result?, hp]

/-- Until all tasks have finished, one of them can take a step, now or later. -/
theorem Orderly.exists_step {run : Run σ} (orderly : run.Orderly setting roots Lower)
    (founded : ∀ goal ∈ roots, Acc Lower goal) (unfinished : ¬ run.isOver) :
  ∃ later goal next, run.now ≤ later ∧ ({ run with now := later } : Run σ).step? setting goal = some next
  := by
  -- Late enough for everything that is due.
  have late : ∃ later, run.now ≤ later ∧ ∀ goal progress, run.progress? goal = some progress →
      ∀ due, progress.due? = some due → due ≤ later := by
    let times := (run.updates.values ++ run.deletions.values).filterMap Progress.due?
    use run.now + times.sum, Nat.le_add_right _ _
    intro goal progress hp due hd
    apply Nat.le_trans (List.le_sum_of_mem _) (Nat.le_add_left _ _)
    apply List.mem_filterMap.mpr
    refine ⟨progress, ?_, hd⟩
    cases goal with
    | update logicalId => apply List.mem_append_left _ ((Table.mem_values _ _).mpr ⟨logicalId, hp⟩)
    | delete logicalId => apply List.mem_append_right _ ((Table.mem_values _ _).mpr ⟨logicalId, hp⟩)
  obtain ⟨later, hl, due⟩ := late
  by_contra none
  apply unfinished
  have finished := (orderly.wait later).isOver founded ?_ due
  · apply finished
  · intro goal
    cases hs : ({ run with now := later } : Run σ).step? setting goal with
    | none => rfl
    | some next => exact absurd ⟨later, goal, next, hl, hs⟩ none

/-! ### Schedules come to an end -/

theorem Leads.orderly (confined : setting.Confined roots Lower within) {first run : Run σ} {count : Nat}
    (orderly : first.Orderly setting roots Lower) (holds : within first) (leads : Leads setting first count run) :
  run.Orderly setting roots Lower ∧ within run
  := by
  apply leads.invariant fun run => run.Orderly setting roots Lower ∧ within run
  · rintro run next goal ⟨orderly, holds⟩ h
    exact ⟨orderly.step confined holds h, confined.step run next goal holds h⟩
  · rintro run later ⟨orderly, holds⟩
    exact ⟨orderly.wait later, confined.wait run later holds⟩
  · exact ⟨orderly, holds⟩

/-- No schedule takes more steps than the potential allows. -/
theorem Leads.count_le (confined : setting.Confined roots Lower within) {first run : Run σ} {count : Nat}
    (orderly : first.Orderly setting roots Lower) (holds : within first) (leads : Leads setting first count run) :
  count + run.potential setting roots ≤ first.potential setting roots
  := by
  induction leads with
  | here => omega
  | step before h ih =>
    obtain ⟨orderly', holds'⟩ := before.orderly confined orderly holds
    have := orderly'.potential_lt confined holds' h
    omega
  | wait before h ih => apply ih

/-- A task waits for another. -/
def WaitsFor (run : Run σ) (goal other : Goal) : Prop :=
  ∃ progress, run.progress? goal = some progress ∧ other ∈ progress.waitsOn.map goal.withId

/-- No task waits for itself, directly or through others. -/
theorem Orderly.not_waitsFor_self {run : Run σ} (orderly : run.Orderly setting roots Lower)
    (founded : ∀ goal ∈ roots, Acc Lower goal) (goal : Goal) :
  ¬ Relation.TransGen run.WaitsFor goal goal
  := by
  have down {first last : Goal} (h : run.WaitsFor first last) : last ∈ roots ∧ Lower last first := by
    obtain ⟨progress, hp, ho⟩ := h
    obtain ⟨other, hm, rfl⟩ := List.mem_map.mp ho
    apply orderly.descends first progress hp other hm
  intro cycle
  have root : goal ∈ roots := by
    obtain ⟨_, -, last⟩ := Relation.TransGen.tail'_iff.mp cycle
    exact (down last).1
  have lower : Relation.TransGen Lower goal goal :=
    Relation.transGen_swap.mp (Relation.TransGen.mono (fun _ _ h => (down h).2) _ _ cycle)
  induction (founded goal root).transGen with
  | intro goal _ ih => apply ih goal lower cycle root lower

/-- Driving a run stops when no task can take a step and nothing is due. -/
theorem Orderly.stops_drive (confined : setting.Confined roots Lower within) (fuel : Nat) {run : Run σ}
    (orderly : run.Orderly setting roots Lower) (holds : within run)
    (enough : 2 * run.potential setting roots < fuel
      ∨ 2 * run.potential setting roots ≤ fuel ∧ ∃ goal next, run.step? setting goal = some next) :
  (∀ goal, (run.drive setting roots fuel).step? setting goal = none)
    ∧ (run.drive setting roots fuel).earliest? = none
  := by
  induction fuel generalizing run with
  | zero =>
    obtain enough | ⟨enough, goal, next, h⟩ := enough
    · omega
    · have := orderly.potential_lt confined holds h
      omega
  | succ fuel ih =>
    rw [drive]
    split
    · next next found =>
      obtain ⟨goal, h⟩ := step?_of_firstStep? found
      apply ih (orderly.step confined holds h) (confined.step run next goal holds h)
      have := orderly.potential_lt confined holds h
      left
      omega
    · next none =>
      have still (goal : Goal) : run.step? setting goal = .none := by
        cases hs : run.step? setting goal with
        | none => rfl
        | some next =>
          obtain ⟨root, before, _, hb, -⟩ := orderly.step_spec confined holds hs
          rw [step?_eq_none_of_firstStep? none goal root (mem_goals.mpr ⟨before, hb⟩)] at hs
          cases hs
      have enough : 2 * run.potential setting roots < fuel + 1 := by
        obtain enough | ⟨-, goal, next, h⟩ := enough
        · apply enough
        · rw [still] at h
          cases h
      split
      · next due earliest =>
        apply ih (orderly.wait _) (confined.wait _ _ holds)
        rw [potential_wait]
        refine .inr ⟨by omega, ?_⟩
        -- The task whose time has come can go on.
        obtain ⟨goal, progress, hp, hd⟩ := exists_due_of_earliest? earliest
        use goal
        apply exists_step?_of_due _ hd (Nat.le_max_right _ _)
        rwa [progress?_wait]
      · next earliest => exact ⟨still, earliest⟩

/-- Driving an orderly run brings it to its end. -/
theorem Orderly.isOver_drive (paced : setting.Paced roots Lower within) (fuel : Nat) {run : Run σ}
    (orderly : run.Orderly setting roots Lower) (holds : within run)
    (enough : 2 * run.potential setting roots < fuel) :
  (run.drive setting roots fuel).isOver
  := by
  obtain ⟨still, earliest⟩ := orderly.stops_drive paced.confined fuel holds (.inl enough)
  obtain ⟨count, leads⟩ := leads_drive setting run roots fuel
  apply (leads.orderly paced.confined orderly holds).1.isOver paced.founded still
  intro goal progress hp due hd
  rw [due?_eq_none_of_earliest? earliest hp] at hd
  cases hd

/-- A run comes to its end. -/
structure Concludes (setting : Setting σ) (roots : List Goal) (first : Run σ) : Prop where
  /-- The run as it is driven ends with all tasks finished. -/
  isOver : (first.drive setting roots (setting.budget roots)).isOver
  /-- No schedule goes on forever. -/
  bounded : ∃ bound, ∀ count run, Leads setting first count run → count ≤ bound
  /-- No schedule stops while a task has not finished. -/
  live : ∀ count run, Leads setting first count run → ¬ run.isOver →
    ∃ later goal next, run.now ≤ later ∧ ({ run with now := later } : Run σ).step? setting goal = some next
  /-- No task ever waits for itself. -/
  untangled : ∀ count run, Leads setting first count run → ∀ goal, ¬ Relation.TransGen run.WaitsFor goal goal

/-- An orderly run comes to its end. -/
theorem Orderly.concludes (paced : setting.Paced roots Lower within) {first : Run σ}
    (orderly : first.Orderly setting roots Lower) (holds : within first) :
  first.Concludes setting roots
  := by
  constructor
  · apply orderly.isOver_drive paced _ holds
    exact potential_lt_budget setting roots first
  · use first.potential setting roots
    intro count run leads
    have := leads.count_le paced.confined orderly holds
    omega
  · intro count run leads unfinished
    exact (leads.orderly paced.confined orderly holds).1.exists_step paced.founded unfinished
  · intro count run leads goal
    exact (leads.orderly paced.confined orderly holds).1.not_waitsFor_self paced.founded goal

end Run

/-! ### Tasks that wait along edges -/

/-- What begins to call a provider waits for no task. -/
theorem Setting.call_ne_waiting (setting : Setting σ) (request : Request) (now attempt since : Nat)
    (on awaited : List String) :
  setting.call now request attempt since ≠ .waiting on awaited
  := by
  unfold Setting.call
  split
  · nofun
  · nofun

/-- A declared resource waits for what it is to be made after, or for what its properties read. -/
theorem Run.Move.waiting_update {setting : Setting σ} {run : Run σ} {logicalId : String} {before : Progress}
    {on awaited : List String} {answers : List Exchange}
    (move : Run.Move setting run (.update logicalId) before (.waiting on awaited) answers) :
  ∃ resource, setting.desired.resources.get? logicalId = some resource
    ∧ (on = resource.dependsOn
      ∨ ∃ resolution, setting.desired.evaluate (run.capabilities setting) resource.desiredProperties = .ok resolution
          ∧ ∀ other ∈ on, .resource other ∈ resolution.unresolved)
  := by
  generalize after_eq : Progress.waiting on awaited = after at move
  cases move with
  | begun =>
    unfold Setting.begin at after_eq
    dsimp only at after_eq
    split at after_eq
    · cases after_eq
    · next resource declared =>
      split at after_eq
      · cases after_eq
      · cases after_eq
      · cases after_eq
        exact ⟨resource, declared, .inl rfl⟩
  | proceeded ended unfailed =>
    unfold Setting.proceed at after_eq
    dsimp only at after_eq
    split at after_eq
    · cases after_eq
    · next resource declared =>
      split at after_eq
      · cases after_eq
      · next progress proceeded =>
        obtain ⟨resolution, evaluated, ⟨-, applied⟩ | ⟨pending, -, hp, rfl⟩⟩ := Setting.evaluate_eq_ok proceeded
        · obtain ⟨properties, decision, -, ⟨-, previous, -, rfl⟩ | ⟨-, rfl⟩⟩ := Setting.apply_eq_ok applied
          · cases after_eq
          · exact absurd after_eq.symm (setting.call_ne_waiting _ _ _ _ _ _)
        · cases after_eq
          refine ⟨resource, declared, .inr ⟨resolution, evaluated, ?_⟩⟩
          intro other ho
          rw [hp] at ho
          obtain ⟨d, hd, he⟩ := List.mem_filterMap.mp (List.mem_of_mem_filter ho)
          cases d with
          | resource _ =>
            cases he
            apply hd
          | _ => cases he
  | resumed => exact absurd after_eq.symm (setting.call_ne_waiting _ _ _ _ _ _)
  | _ => cases after_eq

/-- A resource that is to be deleted waits for its dependents. -/
theorem Run.Move.waiting_delete {setting : Setting σ} {run : Run σ} {logicalId : String} {before : Progress}
    {on awaited : List String} {answers : List Exchange}
    (move : Run.Move setting run (.delete logicalId) before (.waiting on awaited) answers) :
  setting.deletionPolicy logicalId = .delete ∧ on = setting.dependents run logicalId
  := by
  generalize after_eq : Progress.waiting on awaited = after at move
  cases move with
  | begun =>
    unfold Setting.begin at after_eq
    dsimp only at after_eq
    split at after_eq
    · split at after_eq
      · cases after_eq
      · cases after_eq
      · next policy =>
        cases after_eq
        exact ⟨policy, rfl⟩
    · cases after_eq
  | proceeded ended unfailed =>
    unfold Setting.proceed at after_eq
    dsimp only at after_eq
    split at after_eq
    · cases after_eq
    · exact absurd after_eq.symm (setting.call_ne_waiting _ _ _ _ _ _)
  | resumed => exact absurd after_eq.symm (setting.call_ne_waiting _ _ _ _ _ _)
  | _ => cases after_eq

namespace Setting

variable (setting : Setting σ)

/-- The graph of the desired template is free of cycles and covers what its properties read. -/
structure Guarded (graph : Graph) : Prop where
  built : setting.desired.graph = .ok graph
  acyclic : graph.cyclicNodes = []
  covers : ∀ logicalId resource, setting.desired.resources.get? logicalId = some resource →
    ∀ other ∈ setting.desired.reads resource.desiredProperties, graph.Edge logicalId other

variable {setting} {graph : Graph}

/-- When the graph guards the tasks, a declared resource waits along edges. -/
theorem Guarded.edge_of_move (guarded : setting.Guarded graph) {run : Run σ} {logicalId other : String}
    {before : Progress} {on awaited : List String} {answers : List Exchange}
    (move : Run.Move setting run (.update logicalId) before (.waiting on awaited) answers) (ho : other ∈ on) :
  graph.Edge logicalId other
  := by
  obtain ⟨resource, declared, preceding | ⟨resolution, evaluated, unresolved⟩⟩ := move.waiting_update
  · rw [preceding] at ho
    exact (Template.mem_edges_graph guarded.built _ _).mpr ⟨resource, declared, List.mem_append_right _ ho⟩
  · apply guarded.covers logicalId resource declared
    apply setting.desired.mem_reads_of_evaluate evaluated (.inr (unresolved other ho))

end Setting

end Reconcile
