import Mathlib.Tactic.Common
import Reconcile.Proofs.Document.Distinct
import Reconcile.Proofs.Json.Alike
import Reconcile.Proofs.Stack.Reconciliation
import Reconcile.Proofs.Stack.Recording

/-!
# Repeated updates

An update that is repeated leaves everything as it is that has been applied before: the properties
of a resource evaluate to what is recorded, since what they refer to is recorded too.  After an
update without failures nothing is left to do.  The repetition comes to its end even where the
graph is no help, for the tasks wait along references that have been resolved once.
-/

namespace Reconcile

variable {σ : Type}

/-! ### What resources need -/

namespace Run

variable {setting : Setting σ}

/-- A resource that takes part needs another: it is to be made after that, or refers to it. -/
def Needs (setting : Setting σ) (run : Run σ) (id other : String) : Prop :=
  ∃ resource, setting.desired.resources.get? id = some resource
    ∧ setting.inputs.conditions.isActive resource.condition = .ok true
    ∧ (other ∈ resource.dependsOn ∨ run.Seeks setting resource other)

/-- What a prepared resource refers to in a later run has ended well. -/
theorem Prepared.endsWell_later {run last : Run σ} {id other : String} {resource : Resource} {properties : Json}
    {decision : Decision} (prepared : run.Prepared setting id resource properties decision)
    (since : Since setting run last) (seeks : last.Seeks setting resource other) :
  run.EndsWell other
  := by
  apply prepared.endsWell
  intro resolution evaluated
  obtain ⟨resolution', evaluated', decides⟩ := prepared.resolved
  obtain rfl := Except.ok.inj (evaluated.symm.trans evaluated')
  apply seeks
  apply setting.desired.evaluate_of_extends since.knows evaluated
  exact (Resolution.realize_eq_ok.mp decides.realized).2

/-- What has ended well does not need itself, directly or through others, and neither does anything that it
needs: all of it had ended well before. -/
theorem Leads.acc_needs {world : σ} {count : Nat} {run last : Run σ}
    (leads : Leads setting (setting.requested world) count run) (since : Since setting run last) {id : String}
    (h : run.EndsWell id) :
  Acc (fun other id => last.Needs setting id other) id
  := by
  induction leads generalizing id with
  | here =>
    obtain ⟨outcome, finished⟩ := h
    rw [Setting.result?_requested] at finished
    cases finished
  | @step _ run next goal leads hs ih =>
    obtain ⟨sound, -⟩ := leads.sound (setting.sound_requested world)
    have since' : Since setting run last := (sound.step hs).2.trans since
    obtain ⟨before, after, new, hb, move, entered, -⟩ := step?_spec hs
    obtain ⟨outcome, finished⟩ := h
    by_cases hg : Goal.update id = goal
    · subst hg
      rw [result?_eq_some, entered.progress?_eq, if_pos rfl] at finished
      obtain rfl := Option.some.inj finished
      obtain ⟨resource, declared, justified⟩ := (sound.accounted_of_move hb move).declared (by simp) (by simp)
      constructor
      rintro other ⟨resource', declared', active, needed⟩
      obtain rfl := Option.some.inj (declared.symm.trans declared')
      have ended {properties : Json} {decision : Decision}
          (prepared : run.Prepared setting id resource properties decision) : run.EndsWell other :=
        needed.elim (prepared.preceded other) (prepared.endsWell_later since')
      cases justified with
      | skipped prepared skips recorded => apply ih since' (ended prepared)
      | succeeded prepared calls serving refused answered allowed => apply ih since' (ended prepared)
      | excluded inactive => cases active.symm.trans inactive
    · apply ih since'
      exact ⟨outcome, (entered.kept hg).result? ▸ finished⟩
  | @wait _ run later leads _ ih =>
    obtain ⟨sound, -⟩ := leads.sound (setting.sound_requested world)
    obtain ⟨outcome, finished⟩ := h
    apply ih ((sound.wait later).2.trans since)
    exact ⟨outcome, by rwa [result?_wait] at finished⟩

end Run

/-! ### What was applied stays as it is -/

/-- The setting of an update that is repeated after a run. -/
def Setting.repeated (setting : Setting σ) (run : Run σ) : Setting σ :=
  { setting with previous := run.recordedState setting }

theorem PhysicalResource.eq_of_exposed {first second : PhysicalResource} (exposed : second.exposed = first.exposed)
    (properties : second.inputProperties = first.inputProperties)
    (hash : second.propertiesHash = first.propertiesHash) :
  second = first
  := by
  cases first
  cases second
  simp only [PhysicalResource.exposed, mk.injEq] at exposed properties hash ⊢
  exact ⟨exposed.1, exposed.2.1, properties, exposed.2.2.2.1, hash⟩

namespace Setting

variable {setting : Setting σ} {world world' : σ} {middle last run : Run σ}

/-- What an update has applied is recorded as the template describes it. -/
theorem Reaches.settles_repeated (distinct : setting.Distinct) (reaches : setting.Reaches world last) :
  (setting.repeated last).Settles (last.view setting)
  := by
  constructor
  · rfl
  · intro id known available
    have completed := Run.availability_view.mp available
    obtain ⟨resource, decision, declared, prepared, -⟩ := reaches.sound.applied completed
    obtain ⟨resolution, evaluated, decides⟩ := prepared.resolved
    refine ⟨known, resource, known.inputProperties, ?_, rfl, declared, ⟨resolution, evaluated, decides.realized⟩, ?_⟩
    · apply Run.get?_recordedState_of_completed _ completed
      exact Option.isSome_iff_exists.mpr ⟨resource, declared⟩
    · apply Json.Distinct.diff_self
      exact (reaches.distinct distinct id known completed).properties

/-- When an update is repeated, no provider is called for what has been applied. -/
theorem Reaches.uncalled_repeated (distinct : setting.Distinct) (reaches : setting.Reaches world last)
    (again : (setting.repeated last).Reaches world' run) {call : Call} (hc : call ∈ run.calls) {id : String}
    (served : call.request.goal = .update id) :
  last.completed? id = none
  := by
  have settles := reaches.settles_repeated distinct
  apply Option.eq_none_iff_forall_ne_some.mpr
  intro physical completed
  have available : (last.view setting).availability id = .available physical := Run.availability_view.mpr completed
  exact (again.steady settles).uncalled settles again.sound available call hc served

namespace Succeeds

variable (succeeds : setting.Succeeds world middle last)

include succeeds

/-- A resource that takes part has been applied, prepared as it was in the end. -/
theorem exists_prepared {id : String} {resource : Resource}
    (declared : setting.desired.resources.get? id = some resource)
    (included : setting.inputs.conditions.isActive resource.condition ≠ .ok false) :
  ∃ physical decision, last.completed? id = some physical
    ∧ last.Prepared setting id resource physical.inputProperties decision
    ∧ physical.propertiesHash = some (fingerprint resource.properties)
  := by
  obtain ⟨-, physical, completed⟩ | ⟨inactive, -⟩ := succeeds.applied_or_excluded declared
  · obtain ⟨resource', decision, declared', prepared, hash⟩ := succeeds.completes.sound.2.1.applied completed
    obtain rfl := Option.some.inj (declared.symm.trans declared')
    exact ⟨physical, decision, completed, prepared, hash⟩
  · exact absurd inactive included

/-- What a resource that takes part needs is declared. -/
theorem isResource_of_needs {id other : String} (needs : last.Needs setting id other) :
  setting.desired.isResource other
  := by
  obtain ⟨resource, declared, active, needed⟩ := needs
  obtain ⟨physical, decision, -, prepared, -⟩ := succeeds.exists_prepared declared (by simp [active])
  obtain ⟨outcome, finished⟩ := needed.elim (prepared.preceded other) prepared.endsWell
  obtain ⟨resource', declared', -⟩ := (succeeds.completes.sound.2.1.accounted finished).cases_of_ok
  exact Option.isSome_iff_exists.mpr ⟨resource', declared'⟩

variable (sound : run.Sound (setting.repeated last)) (steady : run.Steady (last.view setting))
  (settles : (setting.repeated last).Settles (last.view setting))

include sound steady settles

/-- What the repetition has applied is what had been applied before. -/
theorem completed?_repeated {id : String} {physical : PhysicalResource}
    (completed : run.completed? id = some physical) :
  last.completed? id = some physical
  := by
  obtain ⟨resource, decision, declared, prepared, hash⟩ := sound.applied completed
  have active : setting.inputs.conditions.isActive resource.condition = .ok true := prepared.active
  obtain ⟨physical₀, decision₀, completed₀, prepared₀, hash₀⟩ :=
    succeeds.exists_prepared declared (by simp [active])
  have available : (last.view setting).availability id = .available physical₀ :=
    Run.availability_view.mpr completed₀
  obtain ⟨-, -, resolution, evaluated, realized⟩ := steady.skips settles available declared prepared
  obtain ⟨resolution₀, evaluated₀, decides₀⟩ := prepared₀.resolved
  obtain rfl : resolution₀ = resolution := Except.ok.inj (evaluated₀.symm.trans evaluated)
  rw [completed₀, PhysicalResource.eq_of_exposed (steady id physical₀ physical available completed)
    (Except.ok.inj (realized.symm.trans decides₀.realized)) (hash.trans hash₀.symm)]

/-- The repetition knows no more than is known from before. -/
theorem extends_repeated :
  (run.capabilities setting).Extends (last.capabilities setting)
  := Run.extends_of_completed (fun _ _ => succeeds.completed?_repeated sound steady settles)
      succeeds.completes.sound.2.1.since_self.heeds

/-- What a task of the repetition waits for is needed. -/
theorem needs_of_waiting {id other : String} {on awaited : List String} {answers : List Answer}
    (accounted : run.Accounted (setting.repeated last) answers id (.waiting on awaited)) (ho : other ∈ on) :
  last.Needs setting id other
  := by
  obtain ⟨resource, declared, justified⟩ := accounted.declared (by simp) (by simp)
  cases justified with
  | preceding untried active => exact ⟨resource, declared, active, .inl ho⟩
  | seeking untried active preceded within supplied seeks =>
    have seeks : run.Seeks setting resource other := seeks other (within other ho)
    exact ⟨resource, declared, active, .inr (seeks.extends (succeeds.extends_repeated sound steady settles))⟩

/-- A step of the repetition makes no declared resource fail. -/
theorem unfailed_step {next : Run σ} {goal : Goal}
    (unfailed : ∀ id, setting.desired.isResource id → ∀ error, run.result? (.update id) ≠ some (.error error))
    (h : run.step? (setting.repeated last) goal = some next) {id : String} (hid : setting.desired.isResource id)
    (error : StackError) :
  next.result? (.update id) ≠ some (.error error)
  := by
  intro failed
  obtain ⟨before, after, new, hb, move, entered, -⟩ := Run.step?_spec h
  by_cases hg : Goal.update id = goal
  · subst hg
    rw [Run.result?_eq_some, entered.progress?_eq, if_pos rfl] at failed
    obtain rfl := Option.some.inj failed
    obtain ⟨resource, declared⟩ := Option.isSome_iff_exists.mp hid
    have justified := (sound.accounted_of_move hb move).justified declared
    cases justified with
    | thwarted included thwarted =>
      obtain ⟨physical, decision, completed, prepared, -⟩ := succeeds.exists_prepared declared included
      obtain ⟨resolution, evaluated, -⟩ := prepared.resolved
      have available : (last.view setting).availability id = .available physical :=
        Run.availability_view.mpr completed
      have needed {other : String} (needed : other ∈ resource.dependsOn ∨ last.Seeks setting resource other) :
          setting.desired.isResource other :=
        succeeds.isResource_of_needs ⟨resource, declared, prepared.active, needed⟩
      cases thwarted with
      | inactive failed => cases failed.symm.trans prepared.active
      | unpreceded listed failed => exact unfailed _ (needed (.inl listed)) _ failed
      | @unsupplied other _ seeks failed =>
        have seeks : run.Seeks setting resource other := seeks
        have seeks := seeks.extends (succeeds.extends_repeated sound steady settles)
        exact unfailed _ (needed (.inr seeks)) _ failed
      | unresolved failed =>
        obtain ⟨error', failed⟩ := setting.desired.exists_error_of_extends
          (succeeds.extends_repeated sound steady settles) failed
        cases failed.symm.trans evaluated
      | unserved prepared calls missing => exact calls (steady.skips settles available declared prepared).1
      | exhausted prepared calls serving refused spent =>
        exact calls (steady.skips settles available declared prepared).1
  · rw [(entered.kept hg).result?] at failed
    exact unfailed id hid error failed

omit sound steady in
/-- When an update is repeated that had no failures, no declared resource fails. -/
theorem unfailed_repeated {count : Nat}
    (leads : Run.Leads (setting.repeated last) ((setting.repeated last).requested world') count run) :
  run.failures (setting.desired.resources.names.map .update) = []
  := by
  have invariant : run.Sound (setting.repeated last) ∧ run.Steady (last.view setting)
      ∧ ∀ id, setting.desired.isResource id → ∀ error, run.result? (.update id) ≠ some (.error error) := by
    apply leads.invariant fun run => run.Sound (setting.repeated last) ∧ run.Steady (last.view setting)
      ∧ ∀ id, setting.desired.isResource id → ∀ error, run.result? (.update id) ≠ some (.error error)
    · rintro run next goal ⟨sound, steady, unfailed⟩ h
      refine ⟨(sound.step h).1, steady.step settles sound h, ?_⟩
      intro id hid error
      exact succeeds.unfailed_step sound steady settles unfailed h hid error
    · rintro run later ⟨sound, steady, unfailed⟩
      refine ⟨(sound.wait later).1, steady, ?_⟩
      simpa using unfailed
    · refine ⟨Setting.sound_requested _ _, Run.steady_requested _ _ _, ?_⟩
      intro id _ error failed
      rw [result?_requested] at failed
      cases failed
  apply Run.failures_eq_nil.mpr
  intro goal hg
  obtain ⟨id, declared, rfl⟩ := List.mem_map.mp hg
  exact invariant.2.2 id ((Table.contains_iff _ _).mpr declared)

end Succeeds

/-! ### The repetition comes to its end -/

namespace Succeeds

variable (succeeds : setting.Succeeds world middle last)

include succeeds

/-- What resources need leads back to a beginning. -/
theorem acc_needs {goal : Goal} (listed : goal ∈ setting.desired.resources.names.map .update) :
  Acc (fun other goal : Goal => last.Needs setting goal.logicalId other.logicalId) goal
  := by
  obtain ⟨id, declared, rfl⟩ := List.mem_map.mp listed
  obtain ⟨resource, declared⟩ := (Table.exists_get?_iff _ _).mpr declared
  obtain ⟨count, leads⟩ := succeeds.completes.updates
  have founded : Acc (fun other id => last.Needs setting id other) (Goal.update id).logicalId :=
    leads.acc_needs succeeds.completes.sound.2.2 (succeeds.endsWell declared).1
  exact InvImage.accessible Goal.logicalId founded

/-- The tasks of the repetition wait for what their resources need. -/
theorem paced_repeated (settles : (setting.repeated last).Settles (last.view setting)) :
  (setting.repeated last).Paced (setting.desired.resources.names.map .update)
    (fun other goal => last.Needs setting goal.logicalId other.logicalId)
    fun run => run.Sound (setting.repeated last) ∧ run.Steady (last.view setting)
      ∧ ∀ id, run.progress? (.delete id) = none
  := by
  constructor
  · intro goal declared
    exact succeeds.acc_needs declared
  · rintro run next goal ⟨sound, steady, absent⟩ h
    exact ⟨(sound.step h).1, steady.step settles sound h, Run.no_deletion_step absent h⟩
  · rintro run later ⟨sound, steady, absent⟩
    refine ⟨(sound.wait later).1, steady, ?_⟩
    simpa using absent
  · rintro run goal before on awaited answers ⟨sound, steady, absent⟩ hb move other ho
    cases goal with
    | delete id => cases (absent id).symm.trans hb
    | update id =>
      have needs : last.Needs setting id other :=
        succeeds.needs_of_waiting sound steady settles (sound.accounted_of_move hb move) ho
      refine ⟨List.mem_map_of_mem ?_, needs⟩
      exact (Table.contains_iff _ _).mp (succeeds.isResource_of_needs needs)

/-- When an update is repeated that had no failures, the declared resources are dealt with in the end. -/
theorem reconciles_repeated (distinct : setting.Distinct) (world' : σ) :
  (setting.repeated last).Reconciles world'
  := by
  have settles := succeeds.completes.reaches.2.settles_repeated distinct
  apply (succeeds.paced_repeated settles).reconciles
  exact ⟨Setting.sound_requested _ _, Run.steady_requested _ _ _, Setting.no_deletion_requested _ _⟩

/-- After an update without failures nothing has to go. -/
theorem removals_repeated :
  (setting.repeated last).removals = []
  := by
  apply List.eq_nil_iff_forall_not_mem.mpr
  intro id hid
  have doomed := StackState.mem_deletionOrder.mp hid
  simp only [StackState.isDoomed, Bool.and_eq_true, Bool.or_eq_true] at doomed
  obtain ⟨physical, recorded⟩ := Option.isSome_iff_exists.mp doomed.1
  obtain ⟨resource, decision, declared, prepared, -⟩ :=
    succeeds.completes.sound.2.1.applied (succeeds.get?_resources.mp recorded)
  have active : setting.inputs.conditions.isActive resource.condition = .ok true := prepared.active
  obtain undeclared | excluded := doomed.2
  · simp [Template.isResource, Table.contains, Setting.repeated, declared] at undeclared
  · obtain ⟨resource', declared', inactive⟩ := Stack.mem_excluded.mp (List.contains_iff_mem.mp excluded)
    obtain rfl := Option.some.inj (declared.symm.trans declared')
    cases active.symm.trans inactive

end Succeeds

/-! ### The repetition does nothing -/

namespace Succeeds

variable (succeeds : setting.Succeeds world middle last) (distinct : setting.Distinct) {middle' last' : Run σ}
  (completes : (setting.repeated last).Completes world' middle' last')

include succeeds distinct completes

/-- After the declared resources have been dealt with again only time passes. -/
theorem eq_repeated :
  ∃ later, last' = { middle' with doomed := [], now := later }
  := by
  have settles := succeeds.completes.reaches.2.settles_repeated distinct
  obtain ⟨count, leads⟩ := completes.updates
  obtain ⟨⟨count', leads'⟩, -⟩ := completes.removes (succeeds.unfailed_repeated settles leads)
  rw [succeeds.removals_repeated] at leads'
  exact leads'.eq_of_isOver completes.updated

/-- No provider is called again. -/
theorem calls_repeated :
  last'.calls = []
  := by
  apply List.eq_nil_iff_forall_not_mem.mpr
  intro call hc
  match served : call.request.goal with
  | .update id =>
    obtain ⟨resource, properties, decision, declared, prepared, -⟩ :=
      completes.sound.2.1.calls call hc id served
    have active : setting.inputs.conditions.isActive resource.condition = .ok true := prepared.active
    obtain ⟨physical, _, completed, -⟩ := succeeds.exists_prepared declared (by simp [active])
    cases completed.symm.trans
      (succeeds.completes.reaches.2.uncalled_repeated distinct completes.reaches.2 hc served)
  | .delete id =>
    obtain ⟨later, rfl⟩ := succeeds.eq_repeated distinct completes
    obtain ⟨count, leads⟩ := completes.updates
    exact leads.uncalled call hc id served

/-- Everything that had been applied is applied again, and looks the same. -/
theorem completed?_eq (id : String) :
  last'.completed? id = last.completed? id
  := by
  have settles := succeeds.completes.reaches.2.settles_repeated distinct
  have same {physical : PhysicalResource} (completed : last'.completed? id = some physical) :
      last.completed? id = some physical :=
    succeeds.completed?_repeated completes.sound.2.1 (completes.reaches.2.steady settles) settles completed
  cases completed' : last'.completed? id with
  | some physical => exact (same completed').symm
  | none =>
    symm
    apply Option.eq_none_iff_forall_ne_some.mpr
    intro physical completed
    obtain ⟨resource, decision, declared, prepared, -⟩ := succeeds.completes.sound.2.1.applied completed
    obtain ⟨result, middleFinished, finished'⟩ := completes.exists_result declared
    obtain ⟨count, leads⟩ := completes.updates
    have unfailed := succeeds.unfailed_repeated settles leads
    match result with
    | .error error =>
      have mem : id ∈ setting.desired.resources.names := (Table.exists_get?_iff _ _).mp ⟨resource, declared⟩
      exact Run.failures_eq_nil.mp unfailed _ (List.mem_map_of_mem mem) error middleFinished
    | .ok outcome =>
      obtain ⟨-, physical', completed''⟩ | ⟨inactive, -⟩ :=
        completes.sound.2.1.completed_or_excluded declared finished'
      · cases completed'.symm.trans completed''
      · cases inactive.symm.trans prepared.active

/-- Whatever is evaluated in the end evaluates as it did before. -/
theorem capabilities_eq :
  last'.capabilities (setting.repeated last) = last.capabilities setting
  := by
  have same : last'.completed? = last.completed? := funext (succeeds.completed?_eq distinct completes)
  unfold Run.capabilities Run.view
  rw [same]
  rfl

/-- The repetition has no failures either. -/
theorem repeated :
  (setting.repeated last).Succeeds world' middle' last'
  := by
  use completes
  have settles := succeeds.completes.reaches.2.settles_repeated distinct
  obtain ⟨count, leads⟩ := completes.updates
  apply Stack.updateFailures_eq_nil.mpr
  refine ⟨?_, ?_, ?_⟩
  · rw [completes.failures_eq]
    exact succeeds.unfailed_repeated settles leads
  · rw [succeeds.removals_repeated]
    rfl
  · rw [← (Stack.updateFailures_eq_nil.mp succeeds.unfailed).2.2]
    unfold Run.outputFailures Run.output
    rw [succeeds.capabilities_eq distinct completes]
    rfl

/-- The repetition records what had been recorded before. -/
theorem recordedState_repeated :
  last'.recordedState (setting.repeated last) = last.recordedState setting
  := by
  have again := succeeds.repeated distinct completes
  have resources :
      (last'.recordedState (setting.repeated last)).resources = (last.recordedState setting).resources := by
    rw [again.resources_eq, succeeds.resources_eq]
    congr 1
    apply List.filterMap_congr
    rintro ⟨id, resource⟩ hm
    have declared : setting.desired.resources.get? id = some resource := (Table.get?_eq_some_iff _ _ _).mpr hm
    rw [again.recordedResource?_eq declared, succeeds.recordedResource?_eq declared,
      succeeds.completed?_eq distinct completes]
  have outputs : last'.outputs (setting.repeated last) = last.outputs setting := by
    unfold Run.outputs Run.output
    rw [succeeds.capabilities_eq distinct completes]
    rfl
  have template : last'.recordedTemplate (setting.repeated last) = last.recordedTemplate setting := by
    unfold Run.recordedTemplate
    rw [again.leftovers_eq_nil, succeeds.leftovers_eq_nil]
    rfl
  simp only [Run.recordedState, StackState.mk.injEq]
  exact ⟨template, resources, outputs⟩

end Succeeds

end Setting

/-! ### Updates that are repeated -/

namespace Stack

variable {stack : Stack σ} {template : Template} {parameters : Table String} {graph : Graph} {inputs : Inputs}
  {world : σ} {middle last : Run σ}

/-- No name is repeated in the objects of a template and of what is recorded, and in what providers make of
requests in which none is repeated.  This is no more than that objects are maps, which their type does not
say: it holds of all that is read (`distinct_of_documents`) and of all that is recorded later
(`Distinct.updateReport`). -/
structure Distinct (stack : Stack σ) (template : Template) : Prop where
  desired : template.Distinct
  recorded : ∀ id physical, stack.state.resources.get? id = some physical → physical.Distinct
  replies : ∀ type provider request world reply, stack.providers.get type = .ok provider → request.Distinct →
    (provider.answer request world).1 = .ok reply → reply.resource.Distinct

/-- Where a template and a state have been read, and all providers work in memory, no name is repeated. -/
theorem distinct_of_documents {stack : Stack Memory} {document document' : Document} (plain : document.Plain)
    (plain' : document'.Plain) (read : Document.template document = .ok template)
    (read' : Document.stackState document' = .ok stack.state)
    (inMemory : ∀ type provider, stack.providers.get type = .ok provider →
      ∃ settings : InMemory, provider = settings.provider) :
  stack.Distinct template
  := by
  refine ⟨Document.distinct_template plain read, fun _ _ => Document.distinct_stackState plain' read', ?_⟩
  intro type provider request world reply serving distinct answered
  obtain ⟨settings, rfl⟩ := inMemory type provider serving
  exact settings.distinct_answer distinct answered

theorem Distinct.updateSetting (distinct : stack.Distinct template)
    (passed : stack.preflight template parameters = .ok (graph, inputs)) :
  (stack.updateSetting template inputs).Distinct
  := by
  obtain ⟨-, validated⟩ := preflight_eq_ok.mp passed
  obtain ⟨values, valid, validated⟩ := Except.bind_eq_ok.mp validated
  obtain ⟨conditions, -, validated⟩ := Except.bind_eq_ok.mp validated
  obtain ⟨_, -, ⟨⟩⟩ := Except.bind_eq_ok.mp validated
  exact ⟨distinct.desired, ParameterValues.distinct_validate valid, distinct.recorded, distinct.replies⟩

/-- What an update records has no repeated names either. -/
theorem Distinct.updateReport (distinct : stack.Distinct template)
    (passed : stack.preflight template parameters = .ok (graph, inputs))
    (completes : (stack.updateSetting template inputs).Completes world middle last) :
  (stack.updateReport template inputs last).stack.Distinct template
  := by
  refine ⟨distinct.desired, ?_, distinct.replies⟩
  intro id physical recorded
  obtain ⟨-, recorded⟩ | ⟨recorded, -⟩ := Run.get?_recordedState.mp recorded
  · unfold Run.recordedResource? at recorded
    split at recorded
    · next completed =>
      obtain rfl := Option.some.inj recorded
      exact completes.reaches.2.distinct (distinct.updateSetting passed) id _ completed
    · split at recorded
      · cases recorded
      · exact distinct.recorded id physical recorded
  · exact distinct.recorded id physical recorded

/-- What another update does that is asked for as `report` tells of one that ended with the run `last`. -/
structure Repeats (template : Template) (parameters : Table String) (graph : Graph) (inputs : Inputs)
    (last : Run σ) (report : Report σ) : Prop where
  /-- It is not refused. -/
  passes : report.stack.preflight template parameters = .ok (graph, inputs)
  /-- However far it has come, no provider was called to make or change what had been applied. -/
  spared : ∀ world run, (report.stack.updateSetting template inputs).Reaches world run →
    ∀ call ∈ run.calls, ∀ id physical, last.completed? id = some physical → call.request.goal ≠ .update id
  /-- When all had gone well, it comes to its end, -/
  ends : report.error = none → ∀ world, (report.stack.update template parameters world).isOver
  /-- and calls no provider, goes well again and leaves the state as it is. -/
  idle : report.error = none → ∀ world again, report.stack.MayReport template parameters world again →
    again.calls = [] ∧ again.error = none ∧ again.stack.state = report.stack.state

/-- When nothing is to be deleted, only time passes. -/
theorem isOver_deleteAll (setting : Setting σ) {run : Run σ} (ended : run.isOver) :
  (setting.deleteAll [] run).isOver
  := by
  have ended' : ({ run with doomed := [] } : Run σ).isOver := ended
  obtain ⟨count, leads⟩ := Run.leads_drive setting { run with doomed := [] } [] (setting.budget [])
  obtain ⟨later, stays⟩ := leads.eq_of_isOver ended'
  change (Run.drive setting [] (setting.budget []) { run with doomed := [] }).isOver
  rw [stays]
  exact ended

/-- An update that deals with the declared resources, and after which nothing has to go, comes to its end. -/
theorem isOver_updateRun (reconciles : (stack.updateSetting template inputs).Reconciles world)
    (nothing : (stack.updateSetting template inputs).removals = []) :
  (stack.updateRun template inputs world).isOver
  := by
  have order : stack.state.deletionOrder template (excluded template inputs) = [] := nothing
  unfold updateRun
  dsimp only
  split
  · rw [order]
    exact isOver_deleteAll _ reconciles.isOver
  · exact reconciles.isOver

/-- Whatever had been recorded, and whatever the schedule and the providers did, an update that has come to its
end, with or without failures, leaves nothing to do where it succeeded. -/
theorem repeats_of_completes (distinct : stack.Distinct template)
    (passed : stack.preflight template parameters = .ok (graph, inputs))
    (completes : (stack.updateSetting template inputs).Completes world middle last) :
  Repeats template parameters graph inputs last (stack.updateReport template inputs last)
  := by
  have distinct' := distinct.updateSetting passed
  refine ⟨passed, ?_, ?_, ?_⟩
  · intro world' run reaches call hc id physical completed served
    cases completed.symm.trans (completes.reaches.2.uncalled_repeated distinct' reaches hc served)
  · intro succeeded world'
    have succeeds := succeeds_of_error completes succeeded
    have passed' : (stack.updateReport template inputs last).stack.preflight template parameters
        = .ok (graph, inputs) := passed
    rw [update, passed']
    exact isOver_updateRun (succeeds.reconciles_repeated distinct' world') succeeds.removals_repeated
  · intro succeeded world' again reports
    have succeeds := succeeds_of_error completes succeeded
    cases reports with
    | refused rejected => cases rejected.symm.trans passed
    | completed passed' completes' =>
      cases passed'.symm.trans passed
      refine ⟨succeeds.calls_repeated distinct' completes', ?_, succeeds.recordedState_repeated distinct' completes'⟩
      have unfailed := (succeeds.repeated distinct' completes').unfailed
      rw [error_updateReport]
      exact if_pos (List.isEmpty_iff.mpr unfailed)

/-- In the template of a resource and another one that refers to it no name is repeated. -/
theorem distinct_chained (answer : Request → Answer)
    (replies : ∀ request reply, request.Distinct → answer request = .ok reply → reply.resource.Distinct) :
  (answering answer).Distinct .chained
  := by
  refine ⟨⟨?_, nofun⟩, nofun, ?_⟩
  · intro id resource declared
    have member := (Table.get?_eq_some_iff _ _ _).mp declared
    change (id, resource) ∈ [("Base", _), ("Top", _)] at member
    simp only [List.mem_cons, Prod.mk.injEq, List.not_mem_nil, or_false] at member
    obtain ⟨-, rfl⟩ | ⟨-, rfl⟩ := member
    · exact .object .nil nofun
    · refine .object (by simp) ?_
      intro field hf
      obtain rfl := List.mem_singleton.mp hf
      exact .ref "Base"
  · rintro type provider request world reply ⟨⟩ distinct answered
    exact replies request reply distinct answered

theorem distinct_obliging :
  obliging.Distinct .chained
  := by
  apply distinct_chained
  rintro request _ - ⟨⟩
  exact ⟨.null, nofun⟩

/-- When a provider makes every resource, an update that is repeated has nothing to do. -/
theorem exists_repeats_chained :
  ∃ graph middle last, obliging.Distinct .chained
    ∧ obliging.preflight .chained .empty = .ok (graph, {})
    ∧ (obliging.updateSetting .chained {}).Completes () middle last
    ∧ (obliging.updateReport .chained {} last).error = none
    ∧ Repeats .chained .empty graph {} last (obliging.updateReport .chained {} last)
  := by
  obtain ⟨graph, middle, last, passed, completes, succeeded⟩ := exists_completes_obliging
  exact ⟨graph, middle, last, distinct_obliging, passed, completes, succeeded,
    repeats_of_completes distinct_obliging passed completes⟩

end Stack

end Reconcile
