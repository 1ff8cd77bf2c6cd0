import Mathlib.Tactic.Common
import Reconcile.Proofs.Evaluation.Strays
import Reconcile.Proofs.Run.Soundness
import Reconcile.Proofs.Run.Termination

/-!
# Rounds of evaluation

The task of a resource evaluates its properties in rounds.  A round that brings up resources which were not waited
for is followed by another one when these have ended well; every other round is the last one.  Since a round to
follow waits for something new, there is at most one round more than there are declared resources.  What the last
round returns is resolved, although all it says by itself is that nothing new has come up: whatever was waited for is
available by then, or an evaluation that needs it fails.
-/

namespace Reconcile

variable {σ α : Type}

/-- What comes of an evaluation of the properties of a resource. -/
inductive Round where
  | failed (error : EvaluationError)
  /-- These resources have come up, which were not waited for. -/
  | pending (ids : List String)
  /-- Nothing new has come up. -/
  | returned (resolution : Resolution)

/-- Whether there is to be another round. -/
def Round.isPending : Round → Bool
  | .pending _ => true
  | _ => false

namespace Setting

variable (setting : Setting σ)

/-- Evaluate the properties of a resource once. -/
def round (run : Run σ) (resource : Resource) (awaited : List String) : Round :=
  match setting.desired.evaluate (run.capabilities setting) resource.desiredProperties with
  | .error error => .failed error
  | .ok resolution =>
    match resolution.unresolvedResources.filter (!awaited.contains ·) with
    | [] => .returned resolution
    | pending => .pending pending

/-- What the task of a resource makes of a round. -/
def conclude (run : Run σ) (id : String) (resource : Resource) (awaited : List String) : Round → Progress
  | .failed error => .finished (.error (.resolution id error))
  | .pending ids => .waiting ids (awaited ++ ids)
  | .returned resolution =>
    match setting.apply run id resource resolution with
    | .error error => .finished (.error (.resolution id error))
    | .ok progress => progress

variable {setting} {run : Run σ} {id : String} {resource : Resource} {awaited : List String}

/-- A task that has waited for all it had to wait for goes on with a round. -/
theorem proceed_eq_conclude (declared : setting.desired.resources.get? id = some resource) :
  setting.proceed run awaited (.update id)
    = setting.conclude run id resource awaited (setting.round run resource awaited)
  := by
  simp only [proceed, declared, evaluate, round]
  cases setting.desired.evaluate (run.capabilities setting) resource.desiredProperties with
  | error error => rfl
  | ok resolution =>
    simp only [bind, Except.bind]
    cases resolution.unresolvedResources.filter (!awaited.contains ·) with
    | nil => rfl
    | cons first rest => rfl

theorem round_eq_failed {error : EvaluationError} (h : setting.round run resource awaited = .failed error) :
  setting.desired.evaluate (run.capabilities setting) resource.desiredProperties = .error error
  := by
  unfold round at h
  split at h
  · next failed =>
    cases h
    exact failed
  · split at h
    · cases h
    · cases h

theorem round_eq_returned {resolution : Resolution}
    (h : setting.round run resource awaited = .returned resolution) :
  setting.desired.evaluate (run.capabilities setting) resource.desiredProperties = .ok resolution
    ∧ ∀ other ∈ resolution.unresolvedResources, other ∈ awaited
  := by
  unfold round at h
  split at h
  · cases h
  · next evaluated =>
    split at h
    · next none =>
      cases h
      use evaluated
      intro other sought
      simpa using List.filter_eq_nil_iff.mp none other sought
    · cases h

/-- What a round brings up is declared and was not waited for. -/
theorem round_eq_pending {ids : List String} (h : setting.round run resource awaited = .pending ids) :
  ids ≠ [] ∧ ∀ other ∈ ids, other ∉ awaited ∧ other ∈ setting.desired.resources.names
  := by
  unfold round at h
  split at h
  · cases h
  · next evaluated =>
    split at h
    · cases h
    · next some =>
      cases h
      use some
      intro other new
      obtain ⟨sought, fresh⟩ := List.mem_filter.mp new
      refine ⟨by simpa using fresh, ?_⟩
      rw [← Table.contains_iff]
      exact Template.isResource_of_mem_unresolved evaluated sought

end Setting

namespace Run

/-- How far the task of a resource has come, which is nowhere before it has been asked for. -/
def stage (run : Run σ) (id : String) : Progress := (run.progress? (.update id)).getD .ready

theorem stage_eq {run : Run σ} {id : String} {progress : Progress}
    (h : run.progress? (.update id) = some progress) :
  run.stage id = progress
  := by
  rw [stage, h, Option.getD_some]

theorem Kept.stage_eq {run next : Run σ} {id : String} (kept : Kept run next (.update id)) :
  next.stage id = run.stage id
  := by
  obtain h | ⟨absent, h⟩ := kept
  · rw [stage, h, stage]
  · rw [stage, h, stage, absent]
    rfl

/-- The round that the next step of the task of a resource begins with, if it does. -/
def round? (setting : Setting σ) (run : Run σ) (id : String) : Option Round :=
  match setting.desired.resources.get? id, run.progress? (.update id) with
  | some resource, some (.waiting on awaited) =>
    if (on.all fun other => (run.result? (.update other)).isSome) && (run.firstFailed? (.update id) on).isNone then
      some (setting.round run resource awaited)
    else none
  | _, _ => none

/-- The rounds of a resource in a step of a task. -/
def roundsOf (setting : Setting σ) (run : Run σ) (id : String) (goal : Goal) : List Round :=
  if goal = .update id then (run.round? setting id).toList else []

/-- A run leads to another under some schedule, on which the properties of a resource are evaluated in these
rounds. -/
inductive LeadsIn (setting : Setting σ) (id : String) (first : Run σ) : List Round → Run σ → Prop where
  | here : LeadsIn setting id first [] first
  | step {rounds : List Round} {run next : Run σ} {goal : Goal} (before : LeadsIn setting id first rounds run)
      (h : run.step? setting goal = some next) :
    LeadsIn setting id first (rounds ++ run.roundsOf setting id goal) next
  | wait {rounds : List Round} {run : Run σ} {later : Nat} (before : LeadsIn setting id first rounds run)
      (h : run.now ≤ later) :
    LeadsIn setting id first rounds { run with now := later }

variable {setting : Setting σ} {id : String} {first run : Run σ} {rounds : List Round}

theorem round?_eq_some {round : Round} :
  run.round? setting id = some round
    ↔ ∃ resource on awaited, setting.desired.resources.get? id = some resource
      ∧ run.progress? (.update id) = some (.waiting on awaited)
      ∧ (∀ other ∈ on, (run.result? (.update other)).isSome) ∧ run.firstFailed? (.update id) on = none
      ∧ setting.round run resource awaited = round
  := by
  unfold round?
  constructor
  · intro h
    split at h
    · next resource on awaited declared waits =>
      split at h
      · next goesOn =>
        rw [Bool.and_eq_true, List.all_eq_true, Option.isNone_iff_eq_none] at goesOn
        exact ⟨resource, on, awaited, declared, waits, goesOn.1, goesOn.2, Option.some.inj h⟩
      · cases h
    · cases h
  · rintro ⟨resource, on, awaited, declared, waits, ended, unfailed, rfl⟩
    have all : (on.all fun other => (run.result? (.update other)).isSome) = true := List.all_eq_true.mpr ended
    simp [declared, waits, unfailed, all]

theorem LeadsIn.leads (leadsIn : LeadsIn setting id first rounds run) :
  ∃ count, Leads setting first count run
  := by
  induction leadsIn with
  | here => exact ⟨0, .here⟩
  | step _ h ih =>
    obtain ⟨count, leads⟩ := ih
    exact ⟨_, leads.step h⟩
  | wait _ h ih =>
    obtain ⟨count, leads⟩ := ih
    exact ⟨_, leads.wait h⟩

theorem LeadsIn.trans {middle last : Run σ} {rounds' : List Round} (before : LeadsIn setting id first rounds middle)
    (after : LeadsIn setting id middle rounds' last) :
  LeadsIn setting id first (rounds ++ rounds') last
  := by
  induction after with
  | here =>
    rw [List.append_nil]
    exact before
  | step _ h ih =>
    rw [← List.append_assoc]
    exact ih.step h
  | wait _ h ih => exact ih.wait h

theorem Leads.exists_leadsIn {count : Nat} (leads : Leads setting first count run) (id : String) :
  ∃ rounds, LeadsIn setting id first rounds run
  := by
  induction leads with
  | here => exact ⟨[], .here⟩
  | step _ h ih =>
    obtain ⟨rounds, leadsIn⟩ := ih
    exact ⟨_, leadsIn.step h⟩
  | wait _ h ih =>
    obtain ⟨rounds, leadsIn⟩ := ih
    exact ⟨_, leadsIn.wait h⟩

/-- The rounds of a resource while tasks take a step in turn. -/
def roundsAlong (setting : Setting σ) (id : String) : Run σ → List Goal → List Round
  | _, [] => []
  | run, goal :: rest =>
    run.roundsOf setting id goal ++ ((run.step? setting goal).map (roundsAlong setting id · rest)).getD []

theorem leadsIn_steps? {last : Run σ} {goals : List Goal} (h : run.steps? setting goals = some last) (id : String) :
  LeadsIn setting id run (run.roundsAlong setting id goals) last
  := by
  induction goals generalizing run with
  | nil =>
    cases h
    exact .here
  | cons goal rest ih =>
    obtain ⟨next, hs, h⟩ := Option.bind_eq_some_iff.mp h
    have along : run.roundsAlong setting id (goal :: rest)
        = run.roundsOf setting id goal ++ next.roundsAlong setting id rest := by
      rw [roundsAlong, hs]
      rfl
    rw [along]
    exact (LeadsIn.here.step hs).trans (ih h)

end Run

/-! ### Errors -/

/-- Whether a condition holds is not asked of values that are not available. -/
theorem ConditionValues.value_ne_unresolvedAccess {values : ConditionValues} {name : String}
    (dependencies : List String) :
  values.value name ≠ .error (.unresolvedAccess dependencies)
  := by
  unfold value
  cases values.get? name with
  | some holds => rintro ⟨⟩
  | none => rintro ⟨⟩

theorem ConditionValues.isActive_ne_unresolvedAccess {values : ConditionValues} {condition : Option String}
    (dependencies : List String) :
  values.isActive condition ≠ .error (.unresolvedAccess dependencies)
  := by
  cases condition with
  | none => nofun
  | some name => exact values.value_ne_unresolvedAccess dependencies

/-- In a run an evaluation never fails because a value is not available. -/
theorem Run.evaluate_ne_unresolvedAccess {setting : Setting σ} {run : Run σ} {expression : Expression}
    (dependencies : List String) :
  setting.desired.evaluate (run.capabilities setting) expression ≠ .error (.unresolvedAccess dependencies)
  := by
  intro failed
  obtain ⟨values, name, offered, raised⟩ := Template.raises_of_evaluate failed
  cases offered
  exact ConditionValues.value_ne_unresolvedAccess dependencies raised

/-- All that a registry says is that it has no provider. -/
theorem Registry.get_eq_error {registry : Registry α} {type : String} {error : StackError}
    (missing : registry.get type = .error error) :
  error = .providerNotFound type
  := by
  unfold get at missing
  split at missing
  · cases missing
  · cases missing
    rfl

/-! ### How many rounds there are -/

namespace Setting

section

variable (setting : Setting σ)

/-- A resolution of the properties of a resource leaves nothing open: not what they depend on, and not whether there
is something to be done. -/
structure Decisive (id : String) (resource : Resource) (resolution : Resolution) : Prop where
  resolved : resolution.unresolved = []
  decided : ∃ properties decision, setting.Decides id resource resolution properties decision
    ∧ decision.operation ≠ .maybeUpdate

/-- Some rounds are not too many, and none but the last one is final. -/
structure Limited (rounds : List Round) : Prop where
  bounded : rounds.length ≤ setting.desired.resources.names.length + 1
  pending : ∀ round ∈ rounds.dropLast, round.isPending

/-- The rounds that there can be when a task has come this far. -/
inductive Staged (rounds : List Round) : Progress → Prop where
  | ready (none : rounds = []) : Staged rounds .ready
  /-- Every round has brought up something that had not been waited for. -/
  | waiting {on awaited : List String} (pending : ∀ round ∈ rounds, round.isPending)
      (bounded : rounds.length + (setting.desired.resources.names.filter (!awaited.contains ·)).length
        ≤ setting.desired.resources.names.length) :
    Staged rounds (.waiting on awaited)
  | calling {request : Request} {attempt since due : Nat} (limited : setting.Limited rounds) :
    Staged rounds (.calling request attempt since due)
  | resting {request : Request} {attempt since due : Nat} (limited : setting.Limited rounds) :
    Staged rounds (.resting request attempt since due)
  | finished {result : Except StackError Outcome} (limited : setting.Limited rounds)
      (accessible : ∀ id dependencies, result ≠ .error (.resolution id (.unresolvedAccess dependencies))) :
    Staged rounds (.finished result)

/-- The rounds of a resource whose task has come this far; those that were final were decisive. -/
structure Rounded (id : String) (resource : Resource) (rounds : List Round) (progress : Progress) : Prop where
  staged : setting.Staged rounds progress
  decisive : ∀ resolution, .returned resolution ∈ rounds → setting.Decisive id resource resolution

end

variable {setting : Setting σ} {run next : Run σ} {id : String} {resource : Resource} {rounds : List Round}
  {awaited : List String}

/-- A round may follow those that bring up something new. -/
theorem Limited.concat (pending : ∀ round ∈ rounds, round.isPending)
    (bounded : rounds.length ≤ setting.desired.resources.names.length) (round : Round) :
  setting.Limited (rounds ++ [round])
  := by
  constructor
  · rw [List.length_append, List.length_singleton]
    omega
  · rw [List.dropLast_concat]
    exact pending

theorem Limited.of_pending (pending : ∀ round ∈ rounds, round.isPending)
    (bounded : rounds.length ≤ setting.desired.resources.names.length) :
  setting.Limited rounds
  := by
  constructor
  · omega
  · intro round earlier
    exact pending round (List.dropLast_subset rounds earlier)

theorem Limited.nil :
  setting.Limited []
  := .of_pending (List.forall_mem_nil _) (Nat.zero_le _)

/-- However far a task has come, its rounds are not too many. -/
theorem Staged.limited {progress : Progress} (staged : setting.Staged rounds progress) :
  setting.Limited rounds
  := by
  cases staged with
  | ready none =>
    subst none
    exact .nil
  | waiting pending bounded => exact .of_pending pending (by omega)
  | calling limited => exact limited
  | resting limited => exact limited
  | finished limited => exact limited

/-- Calling a provider ends the rounds. -/
theorem Staged.call (limited : setting.Limited rounds) (now : Nat) (request : Request) (attempt since : Nat) :
  setting.Staged rounds (setting.call now request attempt since)
  := by
  obtain ⟨provider, -, hc⟩ | ⟨error, missing, hc⟩ := setting.call_cases now request attempt since
  · rw [hc]
    exact .calling limited
  · rw [hc, Registry.get_eq_error missing]
    exact .finished limited (by nofun)

theorem Staged.begin (declared : setting.desired.resources.get? id = some resource) :
  setting.Staged [] (setting.begin run (.update id))
  := by
  unfold Setting.begin
  simp only [declared]
  split
  · next error failed =>
    apply Staged.finished .nil
    rintro _ dependencies ⟨⟩
    exact ConditionValues.isActive_ne_unresolvedAccess dependencies failed
  · exact .finished .nil (by nofun)
  · apply Staged.waiting (List.forall_mem_nil _)
    rw [List.length_nil, Nat.zero_add]
    apply List.length_filter_le

/-- Whether there is something to be done is not left open by properties that have been realized. -/
theorem Decides.ne_maybeUpdate {resolution : Resolution} {properties : Json} {decision : Decision}
    (decides : setting.Decides id resource resolution properties decision) :
  decision.operation ≠ .maybeUpdate
  := by
  have decided := decides.decided
  rw [Decision.ofResolution_eq decides.realized] at decided
  cases decided
  split
  · nofun
  · dsimp only
    split
    · nofun
    · nofun

/-- What a round returns is decisive when everything that was waited for has ended well. -/
theorem Decisive.of_round {resolution : Resolution} (sound : run.Sound setting)
    (supplied : ∀ other ∈ awaited, run.EndsWell other)
    (returned : setting.round run resource awaited = .returned resolution) :
  setting.Decisive id resource resolution
  := by
  -- What is unresolved has been waited for, as nothing new has come up; but what has ended well is available.
  obtain ⟨evaluated, within⟩ := round_eq_returned returned
  have resolved := Run.unresolved_eq_nil sound.settled evaluated supplied within
  obtain ⟨properties, realized⟩ := setting.desired.exists_realize evaluated resolved
  have decides : setting.Decides id resource resolution properties _ := ⟨realized, Decision.ofResolution_eq realized⟩
  exact ⟨resolved, properties, _, decides, decides.ne_maybeUpdate⟩

/-- What is decisive is applied. -/
theorem Decisive.staged_apply {resolution : Resolution} (decisive : setting.Decisive id resource resolution)
    (limited : setting.Limited rounds) :
  setting.Staged rounds (setting.conclude run id resource awaited (.returned resolution))
  := by
  obtain ⟨properties, decision, decides, -⟩ := decisive.decided
  unfold conclude
  match applied : setting.apply run id resource resolution with
  | .error error =>
    rw [apply_eq_error, decides.realized] at applied
    cases applied
  | .ok progress =>
    simp only [applied]
    obtain ⟨_, _, -, ⟨-, previous, -, rfl⟩ | ⟨-, rfl⟩⟩ := apply_eq_ok applied
    · exact .finished limited (by nofun)
    · exact .call limited _ _ _ _

/-- When everything that was waited for has ended well, the task goes on with one round more. -/
theorem Rounded.proceed {on : List String} (sound : run.Sound setting)
    (declared : setting.desired.resources.get? id = some resource)
    (supplied : ∀ other ∈ awaited, run.EndsWell other)
    (rounded : setting.Rounded id resource rounds (.waiting on awaited)) :
  setting.Rounded id resource (rounds ++ [setting.round run resource awaited])
    (setting.proceed run awaited (.update id))
  := by
  obtain ⟨staged, decisive⟩ := rounded
  cases staged with
  | waiting pending bounded =>
    have limited : setting.Limited (rounds ++ [setting.round run resource awaited]) :=
      .concat pending (by omega) _
    rw [proceed_eq_conclude declared]
    cases outcome : setting.round run resource awaited with
    | failed error =>
      constructor
      · apply Staged.finished (outcome ▸ limited)
        rintro _ dependencies ⟨⟩
        exact Run.evaluate_ne_unresolvedAccess dependencies (round_eq_failed outcome)
      · intro resolution returned
        exact decisive resolution (by simpa using returned)
    | pending ids =>
      -- The task waits for something new, of which there is the less the more rounds there were.
      obtain ⟨some, new⟩ := round_eq_pending outcome
      have nearer : setting.rank (.waiting ids (awaited ++ ids)) < setting.rank (.waiting on awaited) :=
        rank_waiting_lt some (fun other ho => (new other ho).1) fun other ho => (new other ho).2
      constructor
      · apply Staged.waiting
        · intro round hr
          obtain hr | hr := List.mem_append.mp hr
          · exact pending round hr
          · rw [List.mem_singleton.mp hr]
            rfl
        · simp only [rank] at nearer
          rw [List.length_append, List.length_singleton]
          omega
      · intro resolution returned
        exact decisive resolution (by simpa using returned)
    | returned resolution =>
      have last : setting.Decisive id resource resolution := .of_round sound supplied outcome
      constructor
      · exact last.staged_apply (outcome ▸ limited)
      · intro resolution' returned
        obtain returned | returned := List.mem_append.mp returned
        · exact decisive resolution' returned
        · cases List.mem_singleton.mp returned
          exact last

/-- A move that begins with no round leaves the rounds as they are. -/
theorem Staged.move {before after : Progress} {new : List Exchange}
    (declared : setting.desired.resources.get? id = some resource)
    (hb : run.progress? (.update id) = some before) (none : run.round? setting id = none)
    (staged : setting.Staged rounds before) (move : Run.Move setting run (.update id) before after new) :
  setting.Staged rounds after
  := by
  cases move with
  | begun =>
    cases staged with
    | ready first => exact first ▸ .begin declared
  | proceeded ended unfailed =>
    have some := Run.round?_eq_some.mpr ⟨resource, _, _, declared, hb, ended, unfailed, rfl⟩
    rw [none] at some
    cases some
  | blocked ended failed =>
    cases staged with
    | waiting pending bounded => exact .finished (.of_pending pending (by omega)) (by nofun)
  | unserved missing =>
    cases staged with
    | calling limited =>
      rw [Registry.get_eq_error missing]
      exact .finished limited (by nofun)
  | succeeded served answer =>
    cases staged with
    | calling limited => exact .finished limited (by nofun)
  | delayed served answer again =>
    cases staged with
    | calling limited => exact .resting limited
  | failed served answer last =>
    cases staged with
    | calling limited => exact .finished limited (by nofun)
  | resumed =>
    cases staged with
    | resting limited => exact .call limited _ _ _ _

/-- A move of the task of a resource adds the round that it begins with. -/
theorem Rounded.move {before after : Progress} {new : List Exchange} (sound : run.Sound setting)
    (declared : setting.desired.resources.get? id = some resource)
    (hb : run.progress? (.update id) = some before) (rounded : setting.Rounded id resource rounds before)
    (move : Run.Move setting run (.update id) before after new) :
  setting.Rounded id resource (rounds ++ (run.round? setting id).toList) after
  := by
  cases begins : run.round? setting id with
  | none =>
    rw [Option.toList_none, List.append_nil]
    exact ⟨rounded.staged.move declared hb begins move, rounded.decisive⟩
  | some round =>
    obtain ⟨resource', on, awaited, declared', waits, ended, unfailed, rfl⟩ := Run.round?_eq_some.mp begins
    obtain rfl := Option.some.inj (declared.symm.trans declared')
    obtain rfl := Option.some.inj (hb.symm.trans waits)
    have justified := (sound.updates id _ hb).justified declared
    have supplied := justified.supplied (Run.endsWell_of_firstFailed? ended unfailed)
    cases move with
    | proceeded => exact rounded.proceed sound declared supplied
    | blocked _ failed =>
      rw [unfailed] at failed
      cases failed

/-- A step adds the rounds of its task. -/
theorem Rounded.step {goal : Goal} (sound : run.Sound setting)
    (declared : setting.desired.resources.get? id = some resource)
    (rounded : setting.Rounded id resource rounds (run.stage id)) (h : run.step? setting goal = some next) :
  setting.Rounded id resource (rounds ++ run.roundsOf setting id goal) (next.stage id)
  := by
  obtain ⟨before, after, new, hb, move, entered, -⟩ := Run.step?_spec h
  unfold Run.roundsOf
  by_cases own : goal = .update id
  · subst own
    have there : next.progress? (.update id) = some after := by rw [entered.progress?_eq, if_pos rfl]
    rw [Run.stage_eq hb] at rounded
    rw [Run.stage_eq there, if_pos rfl]
    exact rounded.move sound declared hb move
  · rw [if_neg own, List.append_nil, (entered.kept (Ne.symm own)).stage_eq]
    exact rounded

/-- On every schedule the rounds of a resource come to what its task has come to. -/
theorem Rounded.leadsIn {first : Run σ} {earlier : List Round} (sound : first.Sound setting)
    (declared : setting.desired.resources.get? id = some resource)
    (rounded : setting.Rounded id resource earlier (first.stage id))
    (leadsIn : Run.LeadsIn setting id first rounds run) :
  setting.Rounded id resource (earlier ++ rounds) (run.stage id)
  := by
  induction leadsIn with
  | here =>
    rw [List.append_nil]
    exact rounded
  | step before h ih =>
    obtain ⟨count, leads⟩ := before.leads
    rw [← List.append_assoc]
    exact ih.step (leads.sound sound).1 declared h
  | wait before h ih =>
    rw [Run.stage, Run.progress?_wait]
    exact ih

end Setting

end Reconcile
