import Mathlib.Tactic.Common
import Reconcile.Proofs.Evaluation.Relisting
import Reconcile.Proofs.Inputs.Memo

/-!
# The truth values of conditions

The values that are found for the conditions of a template are those that the conditions have when
these values themselves are asked for.  The order in which the conditions are listed has no
influence on them.  The evaluation of the conditions ends, also where they refer to each other in a
cycle.
-/

namespace Reconcile

namespace Template

open ConditionValues

variable {template : Template} {capabilities : Capabilities}

/-! ### All conditions -/

/-- The truth values of some conditions in turn, with a memo; nothing when the depth is used up. -/
noncomputable def recallAll (template : Template) (capabilities : Capabilities) (depth : Nat) :
    List String → ConditionValues → Option (Except EvaluationError (List (String × Bool)))
  | [], _ => some (.ok [])
  | name :: rest, memo => do
    let (outcome, memo) ← recallOne template capabilities depth [] memo name
    match outcome with
    | .error error => some (.error error)
    | .ok holds => do
      let more ← recallAll template capabilities depth rest memo
      some (more.map ((name, holds) :: ·))

/-- What may be asked for in conditions, apart from other conditions. -/
abbrev inputsOnly (parameters pseudoParameters : String → Option Json) : Capabilities :=
  { parameters := some parameters, pseudoParameters := some pseudoParameters }

/-- The truth values of all conditions of a template, evaluated with a memo. -/
noncomputable def recalledValues (template : Template) (parameters pseudoParameters : String → Option Json)
    (depth : Nat) : Option (Except EvaluationError ConditionValues) :=
  (recallAll template (inputsOnly parameters pseudoParameters) depth template.conditions.names .empty).map
    fun outcome => outcome.map Table.ofList

theorem exists_recallAll {depth : Nat} (enough : template.Enough depth []) (names : List String)
    {memo : ConditionValues} (sound : Sound template capabilities memo) :
  ∃ outcome, recallAll template capabilities depth names memo = some outcome
    ∧ outcome = (names.mapM fun name => do
        let value ← template.conditionValue capabilities depth [] name
        return (name, value))
    ∧ ∀ pairs, outcome = .ok pairs →
      ∃ memo', Sound template capabilities memo' ∧ Keeps memo memo'
        ∧ ∀ pair ∈ pairs, memo'.get? pair.1 = some pair.2
  := by
  induction names generalizing memo with
  | nil =>
    refine ⟨.ok [], rfl, rfl, ?_⟩
    rintro _ ⟨⟩
    exact ⟨memo, sound, .refl memo, List.forall_mem_nil _⟩
  | cons name rest ih =>
    obtain ⟨memo₁, recalled, grows, remembered⟩ := exists_recallOne .nil enough memo name sound (.nil memo)
    rw [List.mapM_cons, recallAll, recalled]
    dsimp only [Option.bind_eq_bind, Option.bind_some]
    cases value : template.conditionValue capabilities depth [] name with
    | error error => exact ⟨.error error, rfl, rfl, nofun⟩
    | ok holds =>
      obtain ⟨outcome, recalledRest, same, known⟩ := ih grows.sound
      refine ⟨outcome.map ((name, holds) :: ·), ?_, ?_, ?_⟩
      · rw [recalledRest]
        rfl
      · rw [← same]
        cases outcome with
        | error error => rfl
        | ok more => rfl
      · intro pairs h
        obtain ⟨more, rfl, rfl⟩ := Except.map_eq_ok.mp h
        obtain ⟨memo₂, sound₂, keeps₂, all⟩ := known more rfl
        refine ⟨memo₂, sound₂, grows.keeps.trans keeps₂, List.forall_mem_cons.mpr ⟨?_, all⟩⟩
        exact keeps₂ name holds (remembered holds value)

/-! ### What is found -/

section

variable {parameters pseudoParameters : String → Option Json} {values : ConditionValues}

/-- The values that are found, in the order of the conditions. -/
theorem exists_pairs (h : template.conditionValues parameters pseudoParameters = .ok values) :
  ∃ pairs, (template.conditions.names.mapM fun name => do
      let value ← template.conditionValue (inputsOnly parameters pseudoParameters)
        (template.conditions.size + 1) [] name
      return (name, value)) = .ok pairs ∧ values.entries = pairs ∧ pairs.map (·.1) = template.conditions.names
  := by
  obtain ⟨pairs, found, ⟨⟩⟩ := Except.bind_eq_ok.mp h
  have names : pairs.map (·.1) = template.conditions.names := by
    clear h
    generalize template.conditions.names = names at found
    induction names generalizing pairs with
    | nil =>
      cases found
      rfl
    | cons name rest ih =>
      rw [List.mapM_cons] at found
      obtain ⟨pair, hf, found⟩ := Except.bind_eq_ok.mp found
      obtain ⟨pairs', hr, ⟨⟩⟩ := Except.bind_eq_ok.mp found
      obtain ⟨value, -, ⟨⟩⟩ := Except.bind_eq_ok.mp hf
      rw [List.map_cons, ih _ hr]
  refine ⟨pairs, found, Table.entries_ofList ?_, names⟩
  rw [names]
  exact template.conditions.nodup_names

/-- Every condition of a template has a value, and nothing else has. -/
theorem names_conditionValues (h : template.conditionValues parameters pseudoParameters = .ok values) :
  values.names = template.conditions.names
  := by
  obtain ⟨pairs, -, rfl, names⟩ := exists_pairs h
  exact names

/-- The values that are found are those of the conditions, and a memo holds them all. -/
theorem exists_memo (h : template.conditionValues parameters pseudoParameters = .ok values) :
  ∃ memo, Sound template (inputsOnly parameters pseudoParameters) memo
    ∧ ∀ name holds, memo.get? name = some holds ↔ values.get? name = some holds
  := by
  obtain ⟨pairs, found, rfl, names⟩ := exists_pairs h
  have enough : template.Enough (template.conditions.size + 1) [] := by simp [Enough]
  have nothing : Sound template (inputsOnly parameters pseudoParameters) .empty := .empty
  obtain ⟨outcome, -, same, known⟩ := exists_recallAll enough template.conditions.names nothing
  rw [found] at same
  obtain ⟨memo, sound, -, all⟩ := known values.entries same
  refine ⟨memo, sound, fun name holds => ?_⟩
  constructor
  · intro remembered
    obtain ⟨expression, declared, -⟩ := sound.computed remembered
    have listed : name ∈ values.names := by
      rw [Table.names, names]
      exact (Table.exists_get?_iff _ _).mp ⟨expression, declared⟩
    obtain ⟨b, given⟩ := (values.exists_get?_iff name).mpr listed
    have again := all (name, b) ((values.get?_eq_some_iff name b).mp given)
    rw [remembered] at again
    rw [given, again]
  · intro given
    exact all (name, holds) ((values.get?_eq_some_iff name holds).mp given)

/-- A condition has the value that is found for it when it is evaluated first. -/
theorem get?_conditionValues (h : template.conditionValues parameters pseudoParameters = .ok values) {name : String}
    {holds : Bool} :
  values.get? name = some holds
    ↔ template.conditionValue (inputsOnly parameters pseudoParameters) (template.conditions.size + 1) [] name
      = .ok holds
  := by
  obtain ⟨memo, sound, same⟩ := exists_memo h
  have enough : template.Enough (template.conditions.size + 1) [] := by simp [Enough]
  have value {b : Bool} (given : values.get? name = some b) :=
    sound.conditionValue .nil enough (.nil memo) ((same name b).mpr given)
  constructor
  · exact value
  · intro evaluated
    cases declared : template.conditions.get? name with
    | none =>
      rw [conditionValue_succ, declared] at evaluated
      cases evaluated
    | some expression =>
      have listed := (Table.exists_get?_iff _ _).mp ⟨expression, declared⟩
      rw [← names_conditionValues h] at listed
      obtain ⟨b, given⟩ := (values.exists_get?_iff name).mpr listed
      cases (value given).symm.trans evaluated
      exact given

/-- The conditions have values when each of them has one. -/
theorem exists_conditionValues (h : ∀ name ∈ template.conditions.names, ∃ holds,
      template.conditionValue (inputsOnly parameters pseudoParameters) (template.conditions.size + 1) [] name
        = .ok holds) :
  ∃ values, template.conditionValues parameters pseudoParameters = .ok values
  := by
  have all (names : List String) (within : ∀ name ∈ names, name ∈ template.conditions.names) :
      ∃ pairs, (names.mapM fun name => do
        let value ← template.conditionValue (inputsOnly parameters pseudoParameters)
          (template.conditions.size + 1) [] name
        return (name, value)) = .ok pairs := by
    induction names with
    | nil => exact ⟨[], rfl⟩
    | cons name rest ih =>
      obtain ⟨declared, within⟩ := List.forall_mem_cons.mp within
      obtain ⟨holds, value⟩ := h name declared
      obtain ⟨pairs, found⟩ := ih within
      refine ⟨(name, holds) :: pairs, ?_⟩
      rw [List.mapM_cons, value, found]
      rfl
  obtain ⟨pairs, found⟩ := all _ fun name hn => hn
  exact ⟨_, Except.bind_eq_ok.mpr ⟨pairs, found, rfl⟩⟩

/-- A condition has the value that it has when the values that are found are asked for. -/
theorem exists_realized (h : template.conditionValues parameters pseudoParameters = .ok values) {name : String}
    {expression : Expression} (declared : template.conditions.get? name = some expression) :
  ∃ holds resolution, values.get? name = some holds
    ∧ template.evaluate ((inputsOnly parameters pseudoParameters).answering values.value) expression = .ok resolution
    ∧ resolution.realize = .ok (.bool holds)
  := by
  obtain ⟨memo, sound, same⟩ := exists_memo h
  have listed := (Table.exists_get?_iff _ _).mp ⟨expression, declared⟩
  rw [← names_conditionValues h] at listed
  obtain ⟨holds, given⟩ := (values.exists_get?_iff name).mpr listed
  obtain ⟨expression', declared', computed⟩ := sound.computed ((same name holds).mpr given)
  obtain rfl := Option.some.inj (declared'.symm.trans declared)
  have keeps : Keeps memo values := fun other b remembered => (same other b).mp remembered
  have asked := template.verdict_of_agree (inputsOnly parameters pseudoParameters) keeps.value_eq_ok computed
  obtain ⟨resolution, evaluated, realized⟩ := (template.verdict_eval_eq_ok _).mp asked
  exact ⟨holds, resolution, given, evaluated, realized⟩

/-- The evaluation with a memo ends with the values that are found without one. -/
theorem recalledValues_eq {depth : Nat} (deep : template.conditions.size < depth) :
  template.recalledValues parameters pseudoParameters depth
    = some (template.conditionValues parameters pseudoParameters)
  := by
  have enough : template.Enough depth [] := by simpa [Enough] using deep
  have nothing : Sound template (inputsOnly parameters pseudoParameters) .empty := .empty
  obtain ⟨outcome, recalled, rfl, -⟩ := exists_recallAll enough template.conditions.names nothing
  have same : template.conditionValue (inputsOnly parameters pseudoParameters) depth []
      = template.conditionValue (inputsOnly parameters pseudoParameters) (template.conditions.size + 1) [] :=
    funext (conditionValue_of_enough .nil enough (by simp [Enough]))
  rw [recalledValues, recalled, same]
  rfl

end

/-! ### Another order of conditions -/

/-- A template is another one, but for the order in which it lists the conditions. -/
structure Reorders (template other : Template) : Prop where
  rest : other = { template with conditions := other.conditions }
  conditions : template.conditions.entries.Perm other.conditions.entries

namespace Reorders

variable {other : Template} (reorders : template.Reorders other)

include reorders

theorem symm :
  other.Reorders template
  := by
  refine ⟨?_, reorders.conditions.symm⟩
  rw [reorders.rest]

theorem get?_eq (name : String) :
  other.conditions.get? name = template.conditions.get? name
  := by
  apply Option.ext
  intro expression
  rw [Table.get?_eq_some_iff, Table.get?_eq_some_iff, reorders.conditions.mem_iff]

/-- A condition has the same value, in whatever order the conditions are listed. -/
theorem conditionValue (depth : Nat) (name : String) :
  other.conditionValue capabilities depth [] name = template.conditionValue capabilities depth [] name
  := by
  have alike : template.Alike other := by
    constructor
    · rw [reorders.rest]
    · rw [reorders.rest]
    · rw [reorders.rest]
      rfl
  exact alike.conditionValue reorders.get?_eq capabilities depth [] name

theorem size_eq :
  other.conditions.size = template.conditions.size
  := reorders.conditions.length_eq.symm

variable {parameters pseudoParameters : String → Option Json}

/-- The conditions have the same values, in whatever order they are listed. -/
theorem exists_conditionValues {values : ConditionValues}
    (h : template.conditionValues parameters pseudoParameters = .ok values) :
  ∃ values', other.conditionValues parameters pseudoParameters = .ok values'
  := by
  apply Template.exists_conditionValues
  intro name listed
  obtain ⟨expression, declared⟩ := (Table.exists_get?_iff _ _).mpr listed
  rw [reorders.get?_eq] at declared
  have listed := (Table.exists_get?_iff _ _).mp ⟨expression, declared⟩
  rw [← names_conditionValues h] at listed
  obtain ⟨holds, given⟩ := (values.exists_get?_iff name).mpr listed
  exact ⟨holds, by rw [reorders.size_eq, reorders.conditionValue, (get?_conditionValues h).mp given]⟩

theorem get?_conditionValues {values values' : ConditionValues}
    (h : template.conditionValues parameters pseudoParameters = .ok values)
    (h' : other.conditionValues parameters pseudoParameters = .ok values') (name : String) :
  values'.get? name = values.get? name
  := by
  apply Option.ext
  intro holds
  rw [Template.get?_conditionValues h, Template.get?_conditionValues h', reorders.size_eq, reorders.conditionValue]

end Reorders

/-! ### Consistent truth values -/

/-- What the truth values of the conditions of a template are, whatever the conditions refer to. -/
structure ConsistentConditions (template : Template) (parameters pseudoParameters : String → Option Json) : Prop where
  /-- The conditions have values in their order, -/
  names : ∀ values, template.conditionValues parameters pseudoParameters = .ok values →
    values.names = template.conditions.names
  /-- and each has the value that it has when the values themselves are asked for. -/
  asked : ∀ values, template.conditionValues parameters pseudoParameters = .ok values →
    ∀ name expression, template.conditions.get? name = some expression →
      ∃ holds resolution, values.get? name = some holds
        ∧ template.evaluate ((inputsOnly parameters pseudoParameters).answering values.value) expression
          = .ok resolution
        ∧ resolution.realize = .ok (.bool holds)
  /-- They have values in every order if they have in one, -/
  reordered_iff : ∀ other, template.Reorders other →
    ((∃ values, template.conditionValues parameters pseudoParameters = .ok values)
      ↔ ∃ values, other.conditionValues parameters pseudoParameters = .ok values)
  /-- and these are the same. -/
  reordered : ∀ other, template.Reorders other →
    ∀ values values', template.conditionValues parameters pseudoParameters = .ok values →
      other.conditionValues parameters pseudoParameters = .ok values' →
      ∀ name, values'.get? name = values.get? name
  /-- An evaluation that remembers what was found ends, with the same outcome, also when conditions refer
  to each other in a cycle. -/
  ends : ∀ depth, template.conditions.size < depth →
    template.recalledValues parameters pseudoParameters depth
      = some (template.conditionValues parameters pseudoParameters)

/-- The truth values of the conditions of every template are consistent. -/
theorem consistentConditions (template : Template) (parameters pseudoParameters : String → Option Json) :
  template.ConsistentConditions parameters pseudoParameters
  := by
  constructor
  · intro values h
    exact names_conditionValues h
  · intro values h name expression declared
    exact exists_realized h declared
  · intro other reorders
    constructor
    · rintro ⟨values, h⟩
      exact reorders.exists_conditionValues h
    · rintro ⟨values, h⟩
      exact reorders.symm.exists_conditionValues h
  · intro other reorders values values' h h'
    exact reorders.get?_conditionValues h h'
  · intro depth enough
    exact recalledValues_eq enough

/-- Two conditions that refer to each other, unless a third one holds. -/
def audited : Template where
  parameters := .ofList [("Stage", { type := .string })]
  conditions := .ofList [
    ("Public", .condition "Audited"),
    ("Audited", .ifNamed "Live" (.bool true) (.condition "Public")),
    ("Live", .binary .equals (.ref "Stage") (.string "live"))]

/-- The same conditions in another order. -/
def auditedAnew : Template where
  parameters := .ofList [("Stage", { type := .string })]
  conditions := .ofList [
    ("Live", .binary .equals (.ref "Stage") (.string "live")),
    ("Audited", .ifNamed "Live" (.bool true) (.condition "Public")),
    ("Public", .condition "Audited")]

/-- The value of a stage as the only parameter. -/
def staged (stage : String) (name : String) : Option Json :=
  if name = "Stage" then some (.string stage) else none

/-- Where the third condition holds all conditions have values, in both orders; where it does not the
evaluation ends as well, and the cycle is reported. -/
theorem consistentConditions_audited :
  audited.Reorders auditedAnew
    ∧ (∃ values, audited.conditionValues (staged "live") (fun _ => none) = .ok values
      ∧ values.entries = [("Public", true), ("Audited", true), ("Live", true)]
      ∧ (∃ holds resolution, values.get? "Public" = some holds
        ∧ audited.evaluate ((inputsOnly (staged "live") fun _ => none).answering values.value) (.condition "Audited")
          = .ok resolution
        ∧ resolution.realize = .ok (.bool holds))
      ∧ ∃ values', auditedAnew.conditionValues (staged "live") (fun _ => none) = .ok values'
        ∧ ∀ name, values'.get? name = values.get? name)
    ∧ audited.recalledValues (staged "test") (fun _ => none) 4 = some (.error (.conditionCycle "Public"))
  := by
  have reorders : audited.Reorders auditedAnew := ⟨rfl, (List.reverse_perm audited.conditions.entries).symm⟩
  have live := consistentConditions audited (staged "live") fun _ => none
  have test := consistentConditions audited (staged "test") fun _ => none
  have found : audited.conditionValues (staged "live") (fun _ => none)
      = .ok (.ofList [("Public", true), ("Audited", true), ("Live", true)]) := by
    with_unfolding_all rfl
  have cycle : audited.conditionValues (staged "test") (fun _ => none) = .error (.conditionCycle "Public") := by
    with_unfolding_all rfl
  obtain ⟨values', found'⟩ := (live.reordered_iff auditedAnew reorders).mp ⟨_, found⟩
  refine ⟨reorders, ⟨_, found, rfl, ?_, values', found', ?_⟩, ?_⟩
  · exact live.asked _ found "Public" _ rfl
  · exact live.reordered auditedAnew reorders _ values' found found'
  · exact (test.ends 4 (by decide)).trans (congrArg some cycle)

end Template

end Reconcile
