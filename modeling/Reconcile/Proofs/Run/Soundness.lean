import Mathlib.Tactic.Common
import Reconcile.Proofs.Run.Justification

/-!
# Sound runs

In a sound run every task is where it is for a reason: the tasks of declared resources are
justified, and the others do nothing but remove resources or fail.  Steps of tasks and passing of
time keep a run sound, and what a sound run knows it knows ever after.
-/

namespace Reconcile

variable {σ : Type}

/-- How far the task that removes a resource can come. -/
def Setting.Removes (setting : Setting σ) (id : String) : Progress → Prop
  | .calling request _ _ _ | .resting request _ _ _ => request.goal = .delete id
  | .finished (.ok outcome) =>
    outcome = .deleted ∨ outcome = .retained
      ∨ outcome = .absent ∧ setting.previous.resources.get? id = none
  | _ => True

namespace Run

/-- The answers that the task of a goal got. -/
def answers (run : Run σ) (goal : Goal) : List Answer :=
  (run.exchanges.filter fun exchange => exchange.request.goal = goal).map (·.answer)

section

variable (setting : Setting σ) (run : Run σ)

/-- The task of a resource is justified if the resource is declared; otherwise it only fails. -/
def Accounted (answers : List Answer) (id : String) (progress : Progress) : Prop :=
  match setting.desired.resources.get? id with
  | some resource => run.Justified setting answers id resource progress
  | none => progress = .ready ∨ ∃ error, progress = .finished (.error error)

/-- All tasks are where they are for a reason, and providers were called only for resources that were
prepared. -/
structure Sound : Prop where
  updates : ∀ id progress, run.progress? (.update id) = some progress →
    run.Accounted setting (run.answers (.update id)) id progress
  deletions : ∀ id progress, run.progress? (.delete id) = some progress → setting.Removes id progress
  unasked : ∀ goal, run.progress? goal = none → run.answers goal = []
  calls : ∀ call ∈ run.calls, ∀ id, call.request.goal = .update id →
    ∃ resource properties decision, setting.desired.resources.get? id = some resource
      ∧ run.Prepared setting id resource properties decision ∧ decision.operation ≠ .skip
      ∧ call.request = setting.requestFor id resource properties

end

variable {setting : Setting σ} {run next : Run σ}

/-! ### Accounts of tasks -/

theorem Accounted.justified {answers : List Answer} {id : String} {resource : Resource} {progress : Progress}
    (h : run.Accounted setting answers id progress)
    (declared : setting.desired.resources.get? id = some resource) :
  run.Justified setting answers id resource progress
  := by
  unfold Accounted at h
  rwa [declared] at h

theorem Accounted.ready (id : String) :
  run.Accounted setting [] id .ready
  := by
  unfold Accounted
  split
  · exact .ready rfl
  · exact .inl rfl

theorem Accounted.since {answers : List Answer} {id : String} {progress : Progress}
    (h : run.Accounted setting answers id progress) (since : Since setting run next) :
  next.Accounted setting answers id progress
  := by
  unfold Accounted at h ⊢
  split
  · next resource declared =>
    rw [declared] at h
    apply h.since since
  · next undeclared =>
    rwa [undeclared] at h

/-- Only a task of a declared resource gets anywhere. -/
theorem Accounted.declared {answers : List Answer} {id : String} {progress : Progress}
    (h : run.Accounted setting answers id progress) (began : progress ≠ .ready)
    (unfailed : ∀ error, progress ≠ .finished (.error error)) :
  ∃ resource, setting.desired.resources.get? id = some resource
    ∧ run.Justified setting answers id resource progress
  := by
  unfold Accounted at h
  split at h
  · next resource declared => exact ⟨resource, declared, h⟩
  · obtain h | ⟨error, h⟩ := h
    · exact absurd h began
    · exact absurd h (unfailed error)

/-- A resource that ended well is declared; it takes part and was applied, or it is excluded. -/
theorem Accounted.cases_of_ok {answers : List Answer} {id : String} {outcome : Outcome}
    (h : run.Accounted setting answers id (.finished (.ok outcome))) :
  ∃ resource, setting.desired.resources.get? id = some resource
    ∧ ((setting.inputs.conditions.isActive resource.condition = .ok true
          ∧ ∃ physical operation, outcome = .applied physical operation)
      ∨ (setting.inputs.conditions.isActive resource.condition = .ok false ∧ outcome = .excluded))
  := by
  obtain ⟨resource, declared, justified⟩ := h.declared (by simp) (by simp)
  use resource, declared
  cases justified with
  | skipped prepared skips recorded => exact .inl ⟨prepared.active, _, _, rfl⟩
  | succeeded prepared calls serving refused answered allowed => exact .inl ⟨prepared.active, _, _, rfl⟩
  | excluded inactive => exact .inr ⟨inactive, rfl⟩

/-- A resource that was applied has the properties that it was prepared with, and the operation is the
one that was decided. -/
theorem Accounted.applied {answers : List Answer} {id : String} {physical : PhysicalResource}
    {operation : Operation} (h : run.Accounted setting answers id (.finished (.ok (.applied physical operation)))) :
  ∃ resource decision, setting.desired.resources.get? id = some resource
    ∧ run.Prepared setting id resource physical.inputProperties decision
    ∧ physical.propertiesHash = some (fingerprint resource.properties) ∧ operation = decision.operation
  := by
  obtain ⟨resource, declared, justified⟩ := h.declared (by simp) (by simp)
  have hash (properties : Json) (base : PhysicalResource) :
      (setting.applied id properties base).propertiesHash = some (fingerprint resource.properties) := by
    simp [Setting.applied, declared]
  cases justified with
  | skipped prepared skips recorded => exact ⟨resource, _, declared, prepared, hash _ _, skips.symm⟩
  | succeeded prepared calls serving refused answered allowed =>
    exact ⟨resource, _, declared, prepared, hash _ _, rfl⟩

/-- A provider is called for a declared resource that is prepared for it. -/
theorem Accounted.prepared {answers : List Answer} {id : String} {request : Request}
    {attempt since due : Nat} (h : run.Accounted setting answers id (.calling request attempt since due)) :
  ∃ resource properties decision, setting.desired.resources.get? id = some resource
    ∧ run.Prepared setting id resource properties decision ∧ decision.operation ≠ .skip
    ∧ request = setting.requestFor id resource properties
  := by
  obtain ⟨resource, declared, justified⟩ := h.declared (by simp) (by simp)
  cases justified with
  | calling prepared calls => exact ⟨resource, _, _, declared, prepared, calls, rfl⟩

/-- What is applied is not excluded. -/
theorem Accounted.not_isExcluded {answers : List Answer} {id : String} {physical : PhysicalResource}
    {operation : Operation} (h : run.Accounted setting answers id (.finished (.ok (.applied physical operation)))) :
  ¬ setting.desired.isExcluded setting.inputs.conditions id
  := by
  obtain ⟨resource, declared, ⟨active, -⟩ | ⟨-, ⟨⟩⟩⟩ := h.cases_of_ok
  exact Template.not_isExcluded declared active

namespace Sound

variable (sound : run.Sound setting)

include sound

/-- A run accounts for what it has finished. -/
theorem accounted {id : String} {result : Except StackError Outcome}
    (finished : run.result? (.update id) = some result) :
  run.Accounted setting (run.answers (.update id)) id (.finished result)
  := sound.updates id _ (result?_eq_some.mp finished)

/-- What was applied is declared, and was prepared for it. -/
theorem applied {id : String} {physical : PhysicalResource} (completed : run.completed? id = some physical) :
  ∃ resource decision, setting.desired.resources.get? id = some resource
    ∧ run.Prepared setting id resource physical.inputProperties decision
    ∧ physical.propertiesHash = some (fingerprint resource.properties)
  := by
  obtain ⟨operation, finished⟩ := completed?_eq_some.mp completed
  obtain ⟨resource, decision, declared, prepared, hash, -⟩ := (sound.accounted finished).applied
  exact ⟨resource, decision, declared, prepared, hash⟩

/-- A declared resource that ended well takes part and was applied, or it is excluded. -/
theorem completed_or_excluded {id : String} {resource : Resource} {outcome : Outcome}
    (declared : setting.desired.resources.get? id = some resource)
    (finished : run.result? (.update id) = some (.ok outcome)) :
  (setting.inputs.conditions.isActive resource.condition = .ok true ∧ ∃ physical, run.completed? id = some physical)
    ∨ (setting.inputs.conditions.isActive resource.condition = .ok false ∧ run.completed? id = none)
  := by
  obtain ⟨resource', declared', ended⟩ := (sound.accounted finished).cases_of_ok
  obtain rfl := Option.some.inj (declared.symm.trans declared')
  obtain ⟨active, physical, operation, rfl⟩ | ⟨inactive, rfl⟩ := ended
  · exact .inl ⟨active, physical, completed?_eq_some.mpr ⟨operation, finished⟩⟩
  · right
    use inactive
    rw [completed?, finished]

theorem since_self :
  Since setting run run
  := by
  constructor
  · intro goal result finished
    apply finished
  · intro id excluded
    apply Option.eq_none_iff_forall_ne_some.mpr
    intro physical completed
    obtain ⟨operation, finished⟩ := completed?_eq_some.mp completed
    exact (sound.accounted finished).not_isExcluded excluded

/-- What ended well is not put off. -/
theorem settled (id : String) (h : run.EndsWell id) :
  (run.capabilities setting).find (.resource id) ≠ .ok none
  := by
  obtain ⟨outcome, finished⟩ := h
  obtain ⟨resource, declared, ⟨-, physical, operation, rfl⟩ | ⟨inactive, rfl⟩⟩ :=
    (sound.accounted finished).cases_of_ok
  · rw [find_resource, completed?_eq_some.mpr ⟨operation, finished⟩]
    nofun
  · intro missed
    obtain ⟨id', he, -, included⟩ := find_eq_none missed
    obtain rfl := Dependency.resource.inj he
    apply included ((Template.isExcluded_iff declared).mpr inactive)

/-- A task calls providers for its own goal. -/
theorem goal_of_calling {goal : Goal} {request : Request} {attempt since due : Nat}
    (h : run.progress? goal = some (.calling request attempt since due)) :
  request.goal = goal
  := by
  cases goal with
  | delete id => apply sound.deletions id _ h
  | update id =>
    obtain ⟨resource, properties, decision, -, -, -, rfl⟩ := (sound.updates id _ h).prepared
    apply setting.goal_requestFor id resource properties

end Sound

/-! ### From one run to the next -/

theorem answers_eq {new : List Exchange} (h : next.exchanges = run.exchanges ++ new) {goal : Goal}
    (own : ∀ exchange ∈ new, exchange.request.goal = goal) (other : Goal) :
  next.answers other = run.answers other ++ if other = goal then new.map (·.answer) else []
  := by
  unfold answers
  rw [h, List.filter_append, List.map_append]
  congr 1
  split
  · next he =>
    rw [List.filter_eq_self.mpr]
    intro exchange hm
    simp [own exchange hm, he]
  · next he =>
    rw [List.filter_eq_nil_iff.mpr]
    · rfl
    · intro exchange hm
      simpa [own exchange hm] using Ne.symm he

/-- A task is as it was, or has just been asked for. -/
def Kept (run next : Run σ) (goal : Goal) : Prop :=
  next.progress? goal = run.progress? goal
    ∨ run.progress? goal = none ∧ next.progress? goal = some .ready

theorem Kept.result? {goal : Goal} (kept : Kept run next goal) :
  next.result? goal = run.result? goal
  := by
  obtain h | ⟨absent, h⟩ := kept
  · rw [Run.result?, h, Run.result?]
  · rw [Run.result?, h, Run.result?, absent]
    rfl

theorem Entered.kept {goal other : Goal} {progress : Progress} (entered : run.Entered goal progress next)
    (hne : other ≠ goal) :
  Kept run next other
  := by
  unfold Kept
  rw [entered.progress?_eq, if_neg hne]
  cases run.progress? other with
  | some progress => exact .inl rfl
  | none =>
    split
    · exact .inr ⟨rfl, rfl⟩
    · exact .inl rfl

theorem kept_requests (run : Run σ) (goals : List Goal) (goal : Goal) :
  Kept run (goals.foldl request run) goal
  := by
  unfold Kept
  rw [progress?_requests]
  cases run.progress? goal with
  | some progress => exact .inl rfl
  | none =>
    split
    · exact .inr ⟨rfl, rfl⟩
    · exact .inl rfl

namespace Sound

/-- A run whose tasks are accounted for by a sound one is sound, and knows what that one knows. -/
theorem of_accounted (kept : ∀ goal result, run.result? goal = some result → next.result? goal = some result)
    (updates : ∀ id progress, next.progress? (.update id) = some progress →
      run.Accounted setting (next.answers (.update id)) id progress)
    (deletions : ∀ id progress, next.progress? (.delete id) = some progress → setting.Removes id progress)
    (unasked : ∀ goal, next.progress? goal = none → next.answers goal = [])
    (calls : ∀ call ∈ next.calls, ∀ id, call.request.goal = .update id →
      ∃ resource properties decision, setting.desired.resources.get? id = some resource
        ∧ run.Prepared setting id resource properties decision ∧ decision.operation ≠ .skip
        ∧ call.request = setting.requestFor id resource properties) :
  next.Sound setting ∧ Since setting run next
  := by
  have since : Since setting run next := by
    use kept
    intro id excluded
    apply Option.eq_none_iff_forall_ne_some.mpr
    intro physical completed
    obtain ⟨operation, finished⟩ := completed?_eq_some.mp completed
    exact (updates id _ (result?_eq_some.mp finished)).not_isExcluded excluded
  refine ⟨⟨?_, deletions, unasked, ?_⟩, since⟩
  · intro id progress hp
    exact (updates id progress hp).since since
  · intro call hc id served
    obtain ⟨resource, properties, decision, declared, prepared, rest⟩ := calls call hc id served
    exact ⟨resource, properties, decision, declared, prepared.since since, rest⟩

variable (sound : run.Sound setting)

include sound

theorem accounted_of_kept {id : String} {progress : Progress} (kept : Kept run next (.update id))
    (same : next.answers (.update id) = run.answers (.update id))
    (hp : next.progress? (.update id) = some progress) :
  run.Accounted setting (next.answers (.update id)) id progress
  := by
  rw [same]
  obtain h | ⟨absent, h⟩ := kept
  · apply sound.updates id progress (h.symm.trans hp)
  · obtain rfl := Option.some.inj (h.symm.trans hp)
    rw [sound.unasked _ absent]
    exact .ready id

theorem removes_of_kept {id : String} {progress : Progress} (kept : Kept run next (.delete id))
    (hp : next.progress? (.delete id) = some progress) :
  setting.Removes id progress
  := by
  obtain h | ⟨absent, h⟩ := kept
  · apply sound.deletions id progress (h.symm.trans hp)
  · obtain rfl := Option.some.inj (h.symm.trans hp)
    trivial

theorem absent_of_kept {goal : Goal} (kept : Kept run next goal) (absent : next.progress? goal = none) :
  run.answers goal = []
  := by
  obtain h | ⟨-, h⟩ := kept
  · apply sound.unasked _ (h.symm.trans absent)
  · rw [absent] at h
    cases h

/-- A run in which tasks have only been asked for is as sound. -/
theorem keeps (kept : ∀ goal, Kept run next goal) (exchanges : next.exchanges = run.exchanges)
    (calls : next.calls = run.calls) :
  next.Sound setting ∧ Since setting run next
  := by
  have same (goal : Goal) : next.answers goal = run.answers goal := by rw [answers, exchanges, answers]
  apply Sound.of_accounted
  · intro goal result finished
    rw [(kept goal).result?, finished]
  · intro id progress hp
    apply sound.accounted_of_kept (kept _) (same _) hp
  · intro id progress hp
    apply sound.removes_of_kept (kept _) hp
  · intro goal absent
    rw [same]
    apply sound.absent_of_kept (kept _) absent
  · rw [calls]
    apply sound.calls

/-- The answers that a move takes are answers to its own task. -/
theorem own_of_move {goal : Goal} {before after : Progress} {new : List Exchange}
    (hb : run.progress? goal = some before) (move : Move setting run goal before after new) :
  ∀ exchange ∈ new, exchange.request.goal = goal
  := by
  cases move with
  | succeeded => simpa using sound.goal_of_calling hb
  | delayed => simpa using sound.goal_of_calling hb
  | failed => simpa using sound.goal_of_calling hb
  | _ => nofun

/-- A move of the task of a resource is accounted for. -/
theorem accounted_of_move {id : String} {before after : Progress} {new : List Exchange}
    (hb : run.progress? (.update id) = some before) (move : Move setting run (.update id) before after new) :
  run.Accounted setting (run.answers (.update id) ++ new.map (·.answer)) id after
  := by
  have accounted := sound.updates id before hb
  unfold Accounted at accounted ⊢
  split
  · next resource declared =>
    rw [declared] at accounted
    apply accounted.move sound.settled declared move
  · next undeclared =>
    rw [undeclared] at accounted
    obtain rfl | ⟨error, rfl⟩ := accounted
    · cases move
      simp [Setting.begin, undeclared]
    · cases move

omit sound in
theorem removes_call {id : String} {request : Request} (now attempt since : Nat)
    (own : request.goal = .delete id) :
  setting.Removes id (setting.call now request attempt since)
  := by
  obtain ⟨provider, -, hc⟩ | ⟨error, -, hc⟩ := setting.call_cases now request attempt since
  · rw [hc]
    apply own
  · rw [hc]
    trivial

/-- A move of a task that removes a resource does nothing else. -/
theorem removes_of_move {id : String} {before after : Progress} {new : List Exchange}
    (hb : run.progress? (.delete id) = some before) (move : Move setting run (.delete id) before after new) :
  setting.Removes id after
  := by
  have removes := sound.deletions id before hb
  cases move with
  | begun =>
    unfold Setting.begin
    dsimp only
    split
    · split
      · exact .inr (.inl rfl)
      · trivial
      · trivial
    · next unrecorded =>
      refine .inr (.inr ⟨rfl, ?_⟩)
      simpa [Table.contains] using unrecorded
  | proceeded =>
    unfold Setting.proceed
    dsimp only
    split
    · next unrecorded => exact .inr (.inr ⟨rfl, unrecorded⟩)
    · apply removes_call _ _ _ rfl
  | @succeeded request =>
    have own : request.goal = .delete id := removes
    cases request with
    | delete => exact .inl rfl
    | create => cases own
    | update => cases own
  | delayed => apply removes
  | resumed => apply removes_call _ _ _ removes
  | blocked => trivial
  | unserved => trivial
  | failed => trivial

/-- A step keeps a run sound. -/
theorem step {goal : Goal} (h : run.step? setting goal = some next) :
  next.Sound setting ∧ Since setting run next
  := by
  obtain ⟨before, after, new, hb, move, entered, exchanges⟩ := step?_spec h
  have answers (other : Goal) := answers_eq exchanges (sound.own_of_move hb move) other
  have elsewhere (other : Goal) (hne : other ≠ goal) : next.answers other = run.answers other := by
    rw [answers, if_neg hne, List.append_nil]
  have there : next.progress? goal = some after := by rw [entered.progress?_eq, if_pos rfl]
  have updates (id : String) (progress : Progress) (hp : next.progress? (.update id) = some progress) :
      run.Accounted setting (next.answers (.update id)) id progress := by
    by_cases hg : Goal.update id = goal
    · subst hg
      obtain rfl := Option.some.inj (there.symm.trans hp)
      rw [answers, if_pos rfl]
      apply sound.accounted_of_move hb move
    · apply sound.accounted_of_kept (entered.kept hg) (elsewhere _ hg) hp
  have deletions (id : String) (progress : Progress) (hp : next.progress? (.delete id) = some progress) :
      setting.Removes id progress := by
    by_cases hg : Goal.delete id = goal
    · subst hg
      obtain rfl := Option.some.inj (there.symm.trans hp)
      apply sound.removes_of_move hb move
    · apply sound.removes_of_kept (entered.kept hg) hp
  apply Sound.of_accounted _ updates deletions
  · intro other absent
    have hne : other ≠ goal := by
      rintro rfl
      rw [there] at absent
      cases absent
    rw [elsewhere other hne]
    apply sound.absent_of_kept (entered.kept hne) absent
  · intro call hc id served
    rw [entered.calls_eq] at hc
    obtain hc | hc := List.mem_append.mp hc
    · apply sound.calls call hc id served
    · cases after with
      | calling request attempt since due =>
        obtain rfl := List.mem_singleton.mp hc
        cases goal with
        | delete id' => cases served.symm.trans (deletions id' _ there)
        | update id' =>
          obtain ⟨resource, properties, decision, declared, prepared, calls, rfl⟩ :=
            (updates id' _ there).prepared
          obtain rfl : id' = id := by simpa using served
          exact ⟨resource, properties, decision, declared, prepared, calls, rfl⟩
      | _ => cases hc
  · intro other result finished
    apply result?_step h finished

end Sound

/-- The passing of time keeps a run sound. -/
theorem Sound.wait (sound : run.Sound setting) (later : Nat) :
  ({ run with now := later } : Run σ).Sound setting ∧ Since setting run { run with now := later }
  := sound.keeps (fun goal => .inl (progress?_wait run later goal)) rfl rfl

/-! ### Whole runs -/

theorem Since.trans {first run last : Run σ} (before : Since setting first run) (after : Since setting run last) :
  Since setting first last
  := by
  constructor
  · intro goal result finished
    apply after.kept goal result (before.kept goal result finished)
  · apply after.heeds

/-- Every schedule keeps a run sound, and loses nothing that was known. -/
theorem Leads.sound {first : Run σ} {count : Nat} (leads : Leads setting first count run)
    (sound : first.Sound setting) :
  run.Sound setting ∧ Since setting first run
  := by
  apply leads.invariant fun run => run.Sound setting ∧ Since setting first run
  · rintro run next goal ⟨sound, since⟩ hs
    obtain ⟨sound', since'⟩ := sound.step hs
    exact ⟨sound', since.trans since'⟩
  · rintro run later ⟨sound, since⟩
    obtain ⟨sound', since'⟩ := sound.wait later
    exact ⟨sound', since.trans since'⟩
  · exact ⟨sound, sound.since_self⟩

/-- Asking for tasks keeps a run sound. -/
theorem Sound.requests (sound : run.Sound setting) (goals : List Goal) :
  (goals.foldl request run).Sound setting ∧ Since setting run (goals.foldl request run)
  := by
  obtain ⟨updates, deletions, he⟩ := requests_eq run goals
  apply sound.keeps (kept_requests run goals)
  · rw [he]
  · rw [he]

/-- A run that has not begun is sound. -/
theorem sound_start (setting : Setting σ) (world : σ) :
  (setting.start world).Sound setting
  := by
  constructor
  · nofun
  · nofun
  · intro goal _
    rfl
  · nofun

end Run

/-- An update that has only been asked for is sound. -/
theorem Setting.sound_requested (setting : Setting σ) (world : σ) :
  (setting.requested world).Sound setting
  := ((Run.sound_start setting world).requests _).1

end Reconcile
