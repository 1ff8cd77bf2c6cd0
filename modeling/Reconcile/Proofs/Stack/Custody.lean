import Mathlib.Tactic.Common
import Reconcile.Proofs.Provider.InMemory
import Reconcile.Proofs.Stack.Keeping

/-!
# Who answers for what is there

With providers in memory everything that a stack has ever made is known from the answers to its calls.
What is in a store is recorded or was retained, unless it was deleted from another store: the resource
had been changed under another type, and what was left under the first one is forgotten.
-/

namespace Reconcile

/-! ### Physical ids -/

/-- A resource has been made with a physical id. -/
def Brought (exchanges : List Exchange) (id physicalId : String) : Prop :=
  ∃ exchange ∈ exchanges, exchange.request.logicalId = id ∧ exchange.generated? = some physicalId

/-- A resource is recorded with a physical id. -/
def StackState.Has (state : StackState) (id physicalId : String) : Prop :=
  ∃ physical, state.resources.get? id = some physical ∧ physical.physicalId = some physicalId

/-- The physical ids of the recorded resources that a run has retained. -/
def Run.released {σ : Type} (setting : Setting σ) (run : Run σ) : List String :=
  setting.previous.resources.entries.filterMap fun entry =>
    match run.result? (.delete entry.1) with
    | some (.ok .retained) => entry.2.physicalId
    | _ => none

section

variable {exchanges later : List Exchange} {id other physicalId : String}

@[simp]
theorem brought_append :
  Brought (exchanges ++ later) id physicalId ↔ Brought exchanges id physicalId ∨ Brought later id physicalId
  := by simp only [Brought, List.mem_append, or_and_right, exists_or]

/-- When no physical id is generated twice, it belongs to one resource. -/
theorem Brought.unique (fresh : (exchanges.filterMap Exchange.generated?).Nodup)
    (brought : Brought exchanges id physicalId) (brought' : Brought exchanges other physicalId) :
  id = other
  := by
  obtain ⟨exchange, hm, rfl, made⟩ := brought
  obtain ⟨exchange', hm', rfl, made'⟩ := brought'
  have apart := List.pairwise_filterMap.mp fresh
  have : Std.Symm fun exchange exchange' : Exchange =>
      ∀ p, exchange.generated? = some p → ∀ p', exchange'.generated? = some p' → p ≠ p' :=
    ⟨fun _ _ apart p made p' made' => (apart p' made' p made).symm⟩
  by_contra differ
  apply apart.forall hm hm' _ _ made _ made' rfl
  rintro rfl
  apply differ rfl

theorem Brought.not_later (fresh : ((exchanges ++ later).filterMap Exchange.generated?).Nodup)
    (brought : Brought exchanges id physicalId) :
  ¬ Brought later other physicalId
  := by
  rintro ⟨exchange', hm', -, made'⟩
  obtain ⟨exchange, hm, -, made⟩ := brought
  rw [List.filterMap_append, List.nodup_append] at fresh
  exact fresh.2.2 _ (List.mem_filterMap.mpr ⟨exchange, hm, made⟩) _ (List.mem_filterMap.mpr ⟨exchange', hm', made'⟩) rfl

end

/-! ### What a run makes of the record -/

/-- A run with some answers, in which some physical ids were released, makes one recorded state into another. -/
structure Turnover (before : StackState) (exchanges : List Exchange) (released : List String) (after : StackState) :
    Prop where
  /-- What is made or changed is recorded with its type. -/
  stored : ∀ type physicalId, Stored exchanges type physicalId → ∃ id physical,
    after.resources.get? id = some physical ∧ physical.type = type ∧ physical.physicalId = some physicalId
  /-- What is deleted was recorded with its type, and is recorded no longer. -/
  discarded : ∀ type physicalId, Discarded exchanges type physicalId → ∃ id previous,
    before.resources.get? id = some previous ∧ previous.type = type ∧ previous.physicalId = some physicalId
      ∧ after.resources.get? id = none ∧ ∃ exchange ∈ exchanges, exchange.Deletes id
  /-- What is retained is recorded no longer. -/
  retained : ∀ physicalId ∈ released, ∃ id, before.Has id physicalId ∧ after.resources.get? id = none
    ∧ ∀ exchange ∈ exchanges, ¬ exchange.Deletes id
  /-- What is recorded was made or changed, or it was recorded before with its type. -/
  recorded : ∀ id physical, after.resources.get? id = some physical →
    (∃ physicalId, physical.physicalId = some physicalId ∧ Stored exchanges physical.type physicalId
        ∧ (Brought exchanges id physicalId ∨ before.Has id physicalId))
      ∨ ∃ previous, before.resources.get? id = some previous ∧ previous.type = physical.type
          ∧ previous.physicalId = physical.physicalId
  /-- What was recorded still is, or it was deleted or retained. -/
  accounted : ∀ id physicalId, before.Has id physicalId →
    after.Has id physicalId ∨ (∃ type, Discarded exchanges type physicalId) ∨ physicalId ∈ released

/-- After some answers, in which some physical ids were released, a state records what is in the stores of a memory,
as far as it was not deleted from another store. -/
structure Ledger (exchanges : List Exchange) (released : List String) (state : StackState) (memory : Memory) :
    Prop where
  recorded : ∀ id physical, state.resources.get? id = some physical → ∃ physicalId,
    physical.physicalId = some physicalId ∧ Brought exchanges id physicalId
      ∧ Stored exchanges physical.type physicalId ∧ (∀ type, ¬ Discarded exchanges type physicalId)
      ∧ physicalId ∉ released
  stored : ∀ type physicalId, Stored exchanges type physicalId → ∃ id, Brought exchanges id physicalId
    ∧ (state.Has id physicalId ∨ (∃ type, Discarded exchanges type physicalId) ∨ physicalId ∈ released)
  discarded : ∀ type physicalId, Discarded exchanges type physicalId → Stored exchanges type physicalId
    ∧ physicalId ∉ released ∧ ∀ other, Discarded exchanges other physicalId → other = type
  released : ∀ physicalId ∈ released, ∃ type, Stored exchanges type physicalId
  held : ∀ type physicalId,
    memory.Holds type physicalId ↔ Stored exchanges type physicalId ∧ ¬ Discarded exchanges type physicalId

section

variable {exchanges later : List Exchange} {released dropped : List String} {before after : StackState}
  {memory next : Memory} {id type physicalId : String}

/-- What is recorded with a physical id has been made and is stored under its type, and was neither deleted nor
retained. -/
theorem Ledger.entry (ledger : Ledger exchanges released before memory) {physical : PhysicalResource}
    (recorded : before.resources.get? id = some physical) (known : physical.physicalId = some physicalId) :
  Brought exchanges id physicalId ∧ Stored exchanges physical.type physicalId
    ∧ (∀ type, ¬ Discarded exchanges type physicalId) ∧ physicalId ∉ released
  := by
  obtain ⟨physicalId', known', entry⟩ := ledger.recorded id physical recorded
  obtain rfl := Option.some.inj (known.symm.trans known')
  apply entry

theorem Ledger.has (ledger : Ledger exchanges released before memory) (has : before.Has id physicalId) :
  Brought exchanges id physicalId ∧ (∀ type, ¬ Discarded exchanges type physicalId) ∧ physicalId ∉ released
  := by
  obtain ⟨physical, recorded, known⟩ := has
  obtain ⟨brought, -, untouched⟩ := ledger.entry recorded known
  exact ⟨brought, untouched⟩

/-- What is deleted or retained was recorded, and is no longer. -/
theorem Turnover.gone (turnover : Turnover before later dropped after)
    (gone : Discarded later type physicalId ∨ physicalId ∈ dropped) :
  ∃ id, before.Has id physicalId ∧ after.resources.get? id = none
  := by
  obtain discarded | dropped := gone
  · obtain ⟨id, previous, recorded, -, known, gone, -⟩ := turnover.discarded type physicalId discarded
    exact ⟨id, ⟨previous, recorded, known⟩, gone⟩
  · obtain ⟨id, has, gone, -⟩ := turnover.retained physicalId dropped
    exact ⟨id, has, gone⟩

/-- What is recorded has been made, or was recorded before. -/
theorem Turnover.brought_or_has (turnover : Turnover before later dropped after) (has : after.Has id physicalId) :
  Brought later id physicalId ∨ before.Has id physicalId
  := by
  obtain ⟨physical, recorded, known⟩ := has
  obtain ⟨physicalId', known', -, source⟩ | ⟨previous, recorded', -, same⟩ := turnover.recorded id physical recorded
  · obtain rfl := Option.some.inj (known.symm.trans known')
    exact source
  · exact .inr ⟨previous, recorded', same.trans known⟩

variable (ledger : Ledger exchanges released before memory) (turnover : Turnover before later dropped after)

include ledger turnover

theorem Ledger.brought (has : after.Has id physicalId) :
  Brought (exchanges ++ later) id physicalId
  := by
  apply brought_append.mpr
  obtain brought | has := turnover.brought_or_has has
  · exact .inr brought
  · exact .inl (ledger.has has).1

/-- What has been stored before is still recorded, or it was deleted or retained. -/
theorem Ledger.stored_before (stored : Stored exchanges type physicalId) :
  ∃ id, Brought exchanges id physicalId
    ∧ (after.Has id physicalId ∨ (∃ type, Discarded (exchanges ++ later) type physicalId)
      ∨ physicalId ∈ released ++ dropped)
  := by
  have gone {type : String} (discarded : Discarded exchanges type physicalId ∨ Discarded later type physicalId) :
      ∃ type, Discarded (exchanges ++ later) type physicalId :=
    ⟨type, (discarded_append _ _ _ _).mpr discarded⟩
  obtain ⟨id, brought, has | ⟨type, discarded⟩ | member⟩ := ledger.stored type physicalId stored
  · obtain has | ⟨type, discarded⟩ | member := turnover.accounted id physicalId has
    · exact ⟨id, brought, .inl has⟩
    · exact ⟨id, brought, .inr (.inl (gone (.inr discarded)))⟩
    · exact ⟨id, brought, .inr (.inr (List.mem_append_right _ member))⟩
  · exact ⟨id, brought, .inr (.inl (gone (.inl discarded)))⟩
  · exact ⟨id, brought, .inr (.inr (List.mem_append_left _ member))⟩

/-- What has been deleted before is no longer recorded, so that it is neither deleted again nor retained. -/
theorem Ledger.discarded_before (discarded : Discarded exchanges type physicalId) :
  physicalId ∉ released ++ dropped ∧ ∀ other, Discarded (exchanges ++ later) other physicalId → other = type
  := by
  obtain ⟨-, unreleased, only⟩ := ledger.discarded type physicalId discarded
  have present (other : String) : ¬ (Discarded later other physicalId ∨ physicalId ∈ dropped) := by
    intro gone
    obtain ⟨id, has, -⟩ := turnover.gone gone
    apply (ledger.has has).2.1 type discarded
  constructor
  · intro member
    obtain member | member := List.mem_append.mp member
    · apply unreleased member
    · apply present type (.inr member)
  · intro other discarded'
    obtain discarded' | discarded' := (discarded_append _ _ _ _).mp discarded'
    · apply only other discarded'
    · exact absurd (.inl discarded') (present other)

variable (fresh : ((exchanges ++ later).filterMap Exchange.generated?).Nodup)

include fresh

/-- What is recorded afterwards has been neither deleted nor retained, in this run or before. -/
theorem Ledger.untouched (has : after.Has id physicalId) :
  (∀ type, ¬ Discarded (exchanges ++ later) type physicalId) ∧ physicalId ∉ released ++ dropped
  := by
  have present (type : String) : ¬ (Discarded later type physicalId ∨ physicalId ∈ dropped) := by
    intro gone
    obtain ⟨other, has', gone⟩ := turnover.gone gone
    have brought : Brought (exchanges ++ later) other physicalId := brought_append.mpr (.inl (ledger.has has').1)
    obtain rfl := brought.unique fresh (ledger.brought turnover has)
    obtain ⟨physical, recorded, -⟩ := has
    cases gone.symm.trans recorded
  have earlier : (∀ type, ¬ Discarded exchanges type physicalId) ∧ physicalId ∉ released := by
    obtain brought | has := turnover.brought_or_has has
    · have unstored (type : String) : ¬ Stored exchanges type physicalId := by
        intro stored
        obtain ⟨other, brought', -⟩ := ledger.stored type physicalId stored
        apply brought'.not_later fresh brought
      constructor
      · intro type discarded
        apply unstored type (ledger.discarded type physicalId discarded).1
      · intro member
        obtain ⟨type, stored⟩ := ledger.released physicalId member
        apply unstored type stored
    · apply (ledger.has has).2
  constructor
  · intro type discarded
    obtain discarded | discarded := (discarded_append _ _ _ _).mp discarded
    · apply earlier.1 type discarded
    · apply present type (.inl discarded)
  · intro member
    obtain member | member := List.mem_append.mp member
    · apply earlier.2 member
    · apply present "" (.inr member)

/-- What is deleted in a run had been made or changed before, was not deleted or released before, and is retained by
none of its tasks. -/
theorem Ledger.discarded_later (discarded : Discarded later type physicalId) :
  Stored exchanges type physicalId ∧ physicalId ∉ released ++ dropped
    ∧ ∀ other, Discarded (exchanges ++ later) other physicalId → other = type
  := by
  obtain ⟨id, previous, recorded, rfl, known, -, exchange, hm, deletes⟩ := turnover.discarded type physicalId discarded
  obtain ⟨brought, stored, kept, unreleased⟩ := ledger.entry recorded known
  have same {other : String} (has : before.Has other physicalId) : other = id :=
    (brought_append.mpr (.inl (ledger.has has).1)).unique fresh (brought_append.mpr (.inl brought))
  refine ⟨stored, ?_, ?_⟩
  · intro member
    obtain member | member := List.mem_append.mp member
    · apply unreleased member
    · obtain ⟨other, has, -, undeleted⟩ := turnover.retained physicalId member
      apply undeleted exchange hm
      rwa [same has]
  · intro other discarded'
    obtain discarded' | discarded' := (discarded_append _ _ _ _).mp discarded'
    · exact absurd discarded' (kept other)
    · obtain ⟨id', previous', recorded', rfl, known', -⟩ := turnover.discarded other physicalId discarded'
      obtain rfl := same ⟨previous', recorded', known'⟩
      rw [Option.some.inj (recorded.symm.trans recorded')]

/-- What is stored in a run is not deleted from any store, neither before nor in it. -/
theorem Ledger.stored_later (stored : Stored later type physicalId) (other : String) :
  ¬ Discarded (exchanges ++ later) other physicalId
  := by
  obtain ⟨id, physical, recorded, -, known⟩ := turnover.stored type physicalId stored
  exact (ledger.untouched turnover fresh ⟨physical, recorded, known⟩).1 other

/-- A run that turns one record into another keeps the ledger. -/
theorem Ledger.advance {providers : Providers Memory} (housed : providers.Housed)
    (transcript : Transcript providers memory later next) :
  Ledger (exchanges ++ later) (released ++ dropped) after next
  := by
  constructor
  · intro id physical recorded
    have whole {physicalId : String} (known : physical.physicalId = some physicalId)
        (stored : Stored exchanges physical.type physicalId ∨ Stored later physical.type physicalId) :
        ∃ physicalId, physical.physicalId = some physicalId ∧ Brought (exchanges ++ later) id physicalId
          ∧ Stored (exchanges ++ later) physical.type physicalId
          ∧ (∀ type, ¬ Discarded (exchanges ++ later) type physicalId) ∧ physicalId ∉ released ++ dropped := by
      have has : after.Has id physicalId := ⟨physical, recorded, known⟩
      use physicalId, known, ledger.brought turnover has, (stored_append _ _ _ _).mpr stored
      apply ledger.untouched turnover fresh has
    obtain ⟨physicalId, known, stored, -⟩ | ⟨previous, recorded', type, same⟩ := turnover.recorded id physical recorded
    · apply whole known (.inr stored)
    · obtain ⟨physicalId, known, -, stored, -⟩ := ledger.recorded id previous recorded'
      rw [same] at known
      rw [type] at stored
      apply whole known (.inl stored)
  · intro type physicalId stored
    obtain stored | stored := (stored_append _ _ _ _).mp stored
    · obtain ⟨id, brought, rest⟩ := ledger.stored_before turnover stored
      exact ⟨id, brought_append.mpr (.inl brought), rest⟩
    · obtain ⟨id, physical, recorded, -, known⟩ := turnover.stored type physicalId stored
      have has : after.Has id physicalId := ⟨physical, recorded, known⟩
      exact ⟨id, ledger.brought turnover has, .inl has⟩
  · intro type physicalId discarded
    obtain discarded | discarded := (discarded_append _ _ _ _).mp discarded
    · obtain ⟨stored, -⟩ := ledger.discarded type physicalId discarded
      exact ⟨(stored_append _ _ _ _).mpr (.inl stored), ledger.discarded_before turnover discarded⟩
    · obtain ⟨stored, rest⟩ := ledger.discarded_later turnover fresh discarded
      exact ⟨(stored_append _ _ _ _).mpr (.inl stored), rest⟩
  · intro physicalId member
    obtain member | member := List.mem_append.mp member
    · obtain ⟨type, stored⟩ := ledger.released physicalId member
      exact ⟨type, (stored_append _ _ _ _).mpr (.inl stored)⟩
    · obtain ⟨id, ⟨previous, recorded, known⟩, -⟩ := turnover.retained physicalId member
      obtain ⟨-, stored, -⟩ := ledger.entry recorded known
      exact ⟨previous.type, (stored_append _ _ _ _).mpr (.inl stored)⟩
  · intro type physicalId
    have kept {type physicalId : String} (stored : Stored later type physicalId) :
        ¬ Discarded exchanges type physicalId ∧ ¬ Discarded later type physicalId := by
      rw [← not_or, ← discarded_append]
      apply ledger.stored_later turnover fresh stored
    have held := transcript.holds_iff housed (fun _ _ stored => (kept stored).2) type physicalId
    have := @kept type physicalId
    rw [held, ledger.held, stored_append, discarded_append]
    tauto

end

/-! ### Runs with providers in memory -/

theorem Request.exists_goal_iff {request : Request} :
  (∃ id, request.goal = .update id) ↔ request.kind ≠ .delete
  := by
  cases request with
  | _ => simp [goal, kind]

theorem Run.mem_released {σ : Type} {setting : Setting σ} {run : Run σ} {physicalId : String} :
  physicalId ∈ run.released setting
    ↔ ∃ id previous, setting.previous.resources.get? id = some previous
        ∧ run.result? (.delete id) = some (.ok .retained) ∧ previous.physicalId = some physicalId
  := by
  have retained_iff (id : String) (physical : PhysicalResource) :
      (match run.result? (.delete id) with
        | some (.ok .retained) => physical.physicalId
        | _ => none) = some physicalId
        ↔ run.result? (.delete id) = some (.ok .retained) ∧ physical.physicalId = some physicalId := by
    split
    · next retained => simp [retained]
    · next unretained => simpa using fun retained => absurd retained unretained
  unfold released
  simp only [List.mem_filterMap, Prod.exists, retained_iff, Table.get?_eq_some_iff]

section

variable {setting : Setting Memory} {memory : Memory} {middle last : Run Memory} {after : StackState} {id : String}
  (completes : setting.Completes memory middle last) (housed : setting.providers.Housed)
  (records : ∀ id, setting.Records last id (after.resources.get? id))

include completes

/-- What is deleted is what was recorded. -/
theorem Setting.Completes.recorded_of_deletes {exchange : Exchange} (hm : exchange ∈ last.exchanges)
    (deletes : exchange.Deletes id) :
  ∃ previous reply, setting.previous.resources.get? id = some previous
    ∧ exchange = ⟨.delete id previous.type previous, .ok reply⟩
  := by
  obtain ⟨served, reply, answer⟩ := deletes
  obtain ⟨previous, recorded, requested⟩ := completes.reaches.2.attested.2.2.asked exchange hm id served
  refine ⟨previous, reply, recorded, ?_⟩
  rw [← requested, ← answer]

include housed records

/-- What was returned is recorded with the type that was asked for.  Its physical id was generated, or it is the one
that was recorded. -/
theorem Setting.Completes.recorded_of_answer {request : Request} {reply : Reply}
    (hm : ⟨request, .ok reply⟩ ∈ last.exchanges) (served : request.goal = .update id) :
  ∃ physical physicalId, after.resources.get? id = some physical ∧ physical.type = request.type
    ∧ physical.physicalId = some physicalId ∧ reply.resource.physicalId = some physicalId
    ∧ Stored last.exchanges request.type physicalId
    ∧ (Brought last.exchanges id physicalId ∧ setting.previous.resources.get? id = none
      ∨ setting.previous.Has id physicalId)
  := by
  have reaches := completes.reaches.2
  obtain ⟨resource, properties, decision, -, -, requested⟩ :=
    reaches.faithful.prepared_of_exchange reaches.sound hm served
  obtain ⟨-, provider, world, serving, answer⟩ := reaches.faithful.answered _ hm
  obtain ⟨settings, -, serving'⟩ := housed request.type
  obtain rfl := Except.ok.inj (serving.symm.trans serving')
  have kind : request.kind ≠ .delete := Request.exists_goal_iff.mp ⟨id, served⟩
  obtain ⟨type, physicalId, known, same⟩ := InMemory.resource_of_answer kind answer
  obtain ⟨properties', applies⟩ := Request.exists_applies_iff.mpr served
  have entry := (records id).made request reply properties' applies hm
  refine ⟨_, physicalId, entry, type, known, known, ⟨_, hm, kind, rfl, reply, rfl, known⟩, ?_⟩
  obtain rfl : request = setting.requestFor id resource properties := requested
  unfold requestFor at hm same
  cases recorded : setting.previous.resources.get? id with
  | none =>
    rw [recorded] at hm
    exact .inl ⟨⟨_, hm, rfl, known⟩, rfl⟩
  | some previous =>
    rw [recorded] at same
    exact .inr ⟨previous, recorded, same _ _ _ _ rfl⟩

/-- A run with providers in memory turns what was recorded into what is recorded afterwards. -/
theorem Setting.Completes.turnover :
  Turnover setting.previous last.exchanges (last.released setting) after
  := by
  constructor
  · rintro type physicalId ⟨⟨request, answer⟩, hm, kind, rfl, reply, rfl, known⟩
    obtain ⟨id, served⟩ := Request.exists_goal_iff.mpr kind
    obtain ⟨physical, physicalId', recorded, type, known', returned, -⟩ :=
      completes.recorded_of_answer housed records hm served
    obtain rfl := Option.some.inj (known.symm.trans returned)
    exact ⟨id, physical, recorded, type, known'⟩
  · rintro type physicalId ⟨exchange, hm, id, previous, reply, rfl, known⟩
    have deletes : Exchange.Deletes ⟨.delete id type previous, .ok reply⟩ id := ⟨rfl, reply, rfl⟩
    obtain ⟨_, _, recorded, ⟨⟩⟩ := completes.recorded_of_deletes hm deletes
    exact ⟨id, previous, recorded, rfl, known, (records id).absent_of_dismisses (.inl ⟨_, hm, deletes⟩), _, hm, deletes⟩
  · intro physicalId member
    obtain ⟨id, previous, recorded, retained, known⟩ := Run.mem_released.mp member
    refine ⟨id, ⟨previous, recorded, known⟩, (records id).absent_of_dismisses (.inr retained), ?_⟩
    intro exchange hm deletes
    cases retained.symm.trans (completes.deleted_iff.mpr ⟨exchange, hm, deletes⟩)
  · intro id physical recorded
    obtain makes | skips | dismisses | same := (records id).cases
    · obtain ⟨request, reply, properties, applies, hm⟩ := makes
      obtain ⟨physical', physicalId, recorded', type, known, -, stored, source⟩ :=
        completes.recorded_of_answer housed records hm (Request.exists_applies_iff.mp ⟨properties, applies⟩)
      obtain rfl := Option.some.inj (recorded.symm.trans recorded')
      rw [← type] at stored
      exact .inl ⟨physicalId, known, stored, source.imp_left And.left⟩
    · obtain ⟨_, previous, properties, _, -, recorded', -, -, entry⟩ := (records id).skipped skips
      obtain rfl := Option.some.inj (recorded.symm.trans entry)
      exact .inr ⟨previous, recorded', rfl, rfl⟩
    · cases recorded.symm.trans ((records id).absent_of_dismisses dismisses)
    · exact .inr ⟨physical, same.symm.trans recorded, rfl, rfl⟩
  · rintro id physicalId ⟨previous, recorded, known⟩
    obtain makes | skips | dismisses | same := (records id).cases
    · obtain ⟨request, reply, properties, applies, hm⟩ := makes
      obtain ⟨physical, physicalId', recorded', -, known', -, -, ⟨-, unrecorded⟩ | ⟨previous', recorded'', known''⟩⟩ :=
        completes.recorded_of_answer housed records hm (Request.exists_applies_iff.mp ⟨properties, applies⟩)
      · cases recorded.symm.trans unrecorded
      · obtain rfl := Option.some.inj (recorded.symm.trans recorded'')
        obtain rfl := Option.some.inj (known.symm.trans known'')
        exact .inl ⟨physical, recorded', known'⟩
    · obtain ⟨_, previous', properties, _, -, recorded', -, -, entry⟩ := (records id).skipped skips
      obtain rfl := Option.some.inj (recorded.symm.trans recorded')
      exact .inl ⟨_, entry, known⟩
    · right
      obtain ⟨exchange, hm, deletes⟩ | retained := dismisses
      · obtain ⟨_, reply, recorded', rfl⟩ := completes.recorded_of_deletes hm deletes
        obtain rfl := Option.some.inj (recorded.symm.trans recorded')
        exact .inl ⟨previous.type, _, hm, id, previous, reply, rfl, known⟩
      · exact .inr (Run.mem_released.mpr ⟨id, previous, recorded, retained, known⟩)
    · exact .inl ⟨previous, same.trans recorded, known⟩

end

/-! ### Lives of stacks -/

namespace Stack

/-- What a stack has been through of which nothing was recorded at first, with nothing in the stores of its
providers: the answers to its calls, the physical ids that it has released, what it is, and the memory. -/
inductive Lifetime : List Exchange → List String → Stack Memory → Memory → Prop where
  | start {stack : Stack Memory} {memory : Memory} (empty : stack.state = .empty) (unused : memory.physicalIds = []) :
    Lifetime [] [] stack memory
  | refused {exchanges : List Exchange} {released : List String} {stack : Stack Memory} {memory : Memory}
      {template : Template} {parameters : Table String} {error : StackError}
      (before : Lifetime exchanges released stack memory)
      (rejected : stack.preflight template parameters = .error error) :
    Lifetime exchanges released stack memory
  | updated {exchanges : List Exchange} {released : List String} {stack : Stack Memory} {memory : Memory}
      {template : Template} {parameters : Table String} {graph : Graph} {inputs : Inputs} {middle last : Run Memory}
      (before : Lifetime exchanges released stack memory)
      (passed : stack.preflight template parameters = .ok (graph, inputs))
      (completes : (stack.updateSetting template inputs).Completes memory middle last) :
    Lifetime (exchanges ++ last.exchanges) (released ++ last.released (stack.updateSetting template inputs))
      (stack.updateReport template inputs last).stack last.world
  | deleted {exchanges : List Exchange} {released : List String} {stack : Stack Memory} {memory : Memory}
      {last : Run Memory} (before : Lifetime exchanges released stack memory) (deletes : stack.Deletes memory last) :
    Lifetime (exchanges ++ last.exchanges) (released ++ last.released stack.deleteSetting)
      (stack.deleteReport last).stack last.world

variable {exchanges : List Exchange} {released : List String} {stack : Stack Memory} {memory : Memory}

theorem ledger_start (empty : stack.state = .empty) (unused : memory.physicalIds = []) :
  Ledger [] [] stack.state memory
  := by
  have unheld (type physicalId : String) : ¬ memory.Holds type physicalId := by
    intro held
    have member := Memory.mem_physicalIds.mpr ⟨type, held⟩
    rw [unused] at member
    cases member
  constructor
  · intro id physical recorded
    rw [empty] at recorded
    cases recorded
  · simp [Stored]
  · simp [Discarded]
  · simp
  · simp [Stored, unheld]

/-- Every call keeps the ledger. -/
theorem Lifetime.ledger (lifetime : Lifetime exchanges released stack memory) (housed : stack.providers.Housed)
    (fresh : (exchanges.filterMap Exchange.generated?).Nodup) :
  Ledger exchanges released stack.state memory
  := by
  have earlier {exchanges later : List Exchange} (fresh : ((exchanges ++ later).filterMap Exchange.generated?).Nodup) :
      (exchanges.filterMap Exchange.generated?).Nodup :=
    fresh.sublist ((List.sublist_append_left _ _).filterMap _)
  induction lifetime with
  | start empty unused => apply ledger_start empty unused
  | refused before rejected ih => apply ih housed fresh
  | @updated _ _ stack memory template _ _ inputs _ last before passed completes ih =>
    have records (id : String) : (stack.updateSetting template inputs).Records last id
        ((last.recordedState (stack.updateSetting template inputs)).resources.get? id) := by
      rw [completes.sound.2.1.get?_recordedState]
      apply completes.records
    apply (ih housed (earlier fresh)).advance (completes.turnover housed records) fresh housed
      completes.reaches.2.attested.1
  | deleted before deletes ih =>
    apply (ih housed (earlier fresh)).advance (deletes.completes.turnover housed deletes.records) fresh housed
      deletes.completes.reaches.2.attested.1

end Stack

/-! ### An example -/

/-- A template of one resource, of some type and with a property. -/
def Template.single (type value : String) : Template where
  resources := .ofList [("A", { type, properties := some (.object [("P", .string value)]) })]

namespace Stack

end Stack

end Reconcile
