import Mathlib.Tactic.Common
import Reconcile.Proofs.Evaluation.Distinct
import Reconcile.Proofs.Run.Exchanges
import Reconcile.Proofs.Run.Soundness

/-!
# Runs without repeated names

When no name is repeated in the template, in what is recorded and in the answers of providers, none
is repeated in what a run makes of the resources.
-/

namespace Reconcile

variable {σ : Type}

/-! ### Inputs -/

theorem Parameter.distinct_validate {parameter : Parameter} {name text : String} {value : Json}
    (h : parameter.validate name text = .ok value) :
  value.Distinct
  := by
  unfold validate at h
  dsimp only at h
  split at h
  · cases h
  · cases h
    split
    · apply Json.Distinct.strings
    · exact .string text

theorem ParameterValues.distinct_validate {declared : Table Parameter} {supplied : Table String}
    {values : ParameterValues} (h : validate declared supplied = .ok values) :
  values.values.Distinct
  := by
  have folded (entries : List (String × Parameter)) (before : ParameterValues) (distinct : before.values.Distinct)
      (h : entries.foldlM (fun values entry => do
          let text ← textFor supplied entry.1 entry.2
          let value ← entry.2.validate entry.1 text
          return values.add entry.1 entry.2 value) before = .ok values) : values.values.Distinct := by
    induction entries generalizing before with
    | nil =>
      cases h
      exact distinct
    | cons entry rest ih =>
      rw [List.foldlM_cons] at h
      obtain ⟨after, added, h⟩ := Except.bind_eq_ok.mp h
      obtain ⟨text, -, added⟩ := Except.bind_eq_ok.mp added
      obtain ⟨first, valid, ⟨⟩⟩ := Except.bind_eq_ok.mp added
      exact ih _ (distinct.insert entry.1 (Parameter.distinct_validate valid)) h
  unfold validate at h
  split at h
  · cases h
  · exact folded _ {} Table.distinct_empty h

theorem Config.distinct_pseudoParameter? {config : Config} {name : String} {value : Json}
    (h : config.pseudoParameter? name = some value) :
  value.Distinct
  := by
  unfold pseudoParameter? at h
  split at h
  all_goals cases h
  all_goals first | exact .string _ | apply Json.Distinct.strings

/-- In no value that a request carries a name is repeated. -/
def Request.Distinct : Request → Prop
  | .create _ _ properties => properties.Distinct
  | .update _ _ properties previous => properties.Distinct ∧ previous.Distinct
  | .delete _ _ previous => previous.Distinct

/-! ### Providers in memory -/

/-- In what is made in memory no name is repeated: only scalars become attributes. -/
theorem PhysicalResource.distinct_materialize (type physicalId : String) {properties : Json}
    (distinct : properties.Distinct) :
  (materialize type physicalId properties).Distinct
  := by
  have folded (fields : List (String × Json)) (before : Table Json) (distinct : before.Distinct) :
      (fields.foldl (fun attributes field =>
        if field.2.isScalar && !attributes.contains field.1 then attributes.insert field.1 field.2 else attributes)
          before).Distinct := by
    induction fields generalizing before with
    | nil => exact distinct
    | cons field rest ih =>
      apply ih
      dsimp only
      split
      · next scalar => exact distinct.insert field.1 (.of_isScalar (Bool.and_eq_true_iff.mp scalar).1)
      · exact distinct
  have own : (Table.ofList [("Id", .string physicalId), ("Arn", .string (resourceName type physicalId))]).Distinct :=
    (Table.distinct_empty.insert "Id" (.string _)).insert "Arn" (.string _)
  exact ⟨distinct, folded _ _ own⟩

/-- What a provider makes in memory repeats no name that its request does not repeat. -/
theorem InMemory.distinct_answer (settings : InMemory) {request : Request} (distinct : request.Distinct)
    {memory : Memory} {reply : Reply} (answered : (settings.answer request memory).1 = .ok reply) :
  reply.resource.Distinct
  := by
  unfold InMemory.answer at answered
  cases request with
  | create id type properties =>
    cases answered
    exact PhysicalResource.distinct_materialize _ _ distinct
  | update id type properties previous =>
    dsimp only at answered
    split at answered
    · cases answered
    · cases answered
      exact PhysicalResource.distinct_materialize _ _ distinct.1
  | delete id type previous =>
    cases answered
    exact ⟨.null, Table.distinct_empty⟩

/-! ### Updates -/

/-- No name is repeated in what an update starts from, and in what its providers make of requests in which
none is repeated. -/
structure Setting.Distinct (setting : Setting σ) : Prop where
  desired : setting.desired.Distinct
  parameters : setting.inputs.parameters.values.Distinct
  recorded : ∀ id physical, setting.previous.resources.get? id = some physical → physical.Distinct
  replies : ∀ type provider request world reply, setting.providers.get type = .ok provider → request.Distinct →
    (provider.answer request world).1 = .ok reply → reply.resource.Distinct

/-- In no applied resource a name is repeated. -/
def Run.Distinct (run : Run σ) : Prop := ∀ id physical, run.completed? id = some physical → physical.Distinct

namespace Run

variable {setting : Setting σ} {run next : Run σ} (given : setting.Distinct) (distinct : run.Distinct)

include given distinct

/-! ### What is evaluated and asked for -/

theorem distinct_capabilities :
  (run.capabilities setting).Distinct
  := by
  intro dependency finding found
  cases dependency with
  | parameter name =>
    simp only [Capabilities.find, capabilities, Inputs.capabilities] at found
    split at found
    · next value hv =>
      cases found
      exact given.parameters name value hv
    · cases found
  | pseudoParameter name =>
    simp only [Capabilities.find, capabilities, Inputs.capabilities] at found
    split at found
    · next value hv =>
      cases found
      exact Config.distinct_pseudoParameter? hv
    · cases found
  | condition name =>
    obtain ⟨holds, rfl⟩ := Capabilities.exists_truth_of_find found
    trivial
  | resource id =>
    rw [find_resource] at found
    split at found
    · next physical completed =>
      cases found
      exact distinct id physical completed
    · split at found
      · cases found
      · cases found

variable {id : String} {resource : Resource} (declared : setting.desired.resources.get? id = some resource)
  {properties : Json} {decision : Decision} (prepared : run.Prepared setting id resource properties decision)

include declared prepared

/-- In no properties that a resource is prepared with a name is repeated. -/
theorem distinct_prepared :
  properties.Distinct
  := by
  obtain ⟨resolution, evaluated, decides⟩ := prepared.resolved
  exact Template.distinct_realize (distinct_capabilities given distinct) given.desired
    (given.desired.properties id resource declared) evaluated decides.realized

theorem distinct_requestFor :
  (setting.requestFor id resource properties).Distinct
  := by
  have properties := distinct_prepared given distinct declared prepared
  unfold Setting.requestFor
  split
  · exact properties
  · next previous recorded => exact ⟨properties, given.recorded id previous recorded⟩

omit declared prepared

/-! ### Steps -/

/-- A step repeats no name. -/
theorem Distinct.step (sound : run.Sound setting) (faithful : run.Faithful setting) {goal : Goal}
    (h : run.step? setting goal = some next) :
  next.Distinct
  := by
  obtain ⟨before, after, new, hb, move, entered, exchanges⟩ := step?_spec h
  intro id physical completed
  by_cases hg : Goal.update id = goal
  · subst hg
    obtain ⟨operation, finished⟩ := completed?_eq_some.mp completed
    rw [result?_eq_some, entered.progress?_eq, if_pos rfl] at finished
    obtain rfl := Option.some.inj finished
    obtain ⟨resource, declared, justified⟩ := (sound.accounted_of_move hb move).declared (by simp) (by simp)
    cases justified with
    | skipped prepared skips recorded =>
      exact ⟨distinct_prepared given distinct declared prepared, (given.recorded id _ recorded).attributes⟩
    | @succeeded _ _ _ reply _ prepared calls serving refused answered allowed =>
      obtain ⟨sound', since⟩ := sound.step h
      have replied : Except.ok reply ∈ next.answers (.update id) := by
        rw [answers_eq exchanges (sound.own_of_move hb move), if_pos rfl, answered]
        simp
      have exchanged := (faithful.step h).exchange_of_answer sound' declared (prepared.since since) replied
      obtain ⟨-, provider, world, serving, answer⟩ := (faithful.step h).answered _ exchanged
      have reply_distinct := given.replies _ provider _ world reply serving
        (distinct_requestFor given distinct declared prepared) answer
      exact ⟨distinct_prepared given distinct declared prepared, reply_distinct.attributes⟩
  · apply distinct id physical
    unfold completed? at completed ⊢
    rwa [(entered.kept hg).result?] at completed

omit given distinct

theorem distinct_requested (setting : Setting σ) (world : σ) :
  (setting.requested world).Distinct
  := by
  intro id physical completed
  obtain ⟨operation, finished⟩ := completed?_eq_some.mp completed
  rw [Setting.result?_requested] at finished
  cases finished

end Run

end Reconcile
