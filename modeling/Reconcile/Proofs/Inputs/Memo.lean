import Mathlib.Data.List.Perm.Subperm
import Mathlib.Tactic.Common
import Reconcile.Inputs.Conditions
import Reconcile.Proofs.Evaluation.Dialogue
import Reconcile.Proofs.Outcome
import Reconcile.Proofs.Table

/-!
# The evaluation of conditions with a memo

Conditions refer to each other, and the value of one may be asked for while others are being
evaluated.  `Template.recallOne` remembers each value that it finds.  It comes to the same as the
evaluation that remembers nothing: what a memo holds was computed from what it held before, so that
none of it asks for a condition that is being evaluated.
-/

namespace Reconcile

namespace Template

variable (template : Template) (capabilities : Capabilities)

/-! ### Verdicts -/

/-- The truth value of a condition, from the evaluation of its expression. -/
def verdict (evaluation : Evaluation Slot) : Except EvaluationError Bool := do
  let resolution ← resolution (evaluation.andThen fun slot => .result slot.argument?)
  let value ← resolution.realize
  value.expectBool "Condition"

theorem conditionValue_succ (depth : Nat) (visiting : List String) (name : String) :
  template.conditionValue capabilities (depth + 1) visiting name
    = if name ∈ visiting then .error (.conditionCycle name)
      else
        match template.conditions.get? name with
        | none => .error (.unknownCondition name)
        | some expression =>
          verdict (template.eval
            (capabilities.answering (template.conditionValue capabilities depth (name :: visiting))) expression)
  := by
  simp only [conditionValue, List.contains_iff_mem]
  rfl

/-- A verdict is the truth value that a resolution is realized as. -/
theorem verdict_eval_eq_ok {expression : Expression} {holds : Bool} :
  verdict (template.eval capabilities expression) = .ok holds
    ↔ ∃ resolution, template.evaluate capabilities expression = .ok resolution
        ∧ resolution.realize = .ok (.bool holds)
  := by
  constructor
  · intro h
    obtain ⟨resolution, evaluated, h⟩ := Except.bind_eq_ok.mp h
    obtain ⟨value, realized, h⟩ := Except.bind_eq_ok.mp h
    cases value with
    | bool b =>
      cases h
      exact ⟨resolution, evaluated, realized⟩
    | _ => cases h
  · rintro ⟨resolution, evaluated, realized⟩
    exact Except.bind_eq_ok.mpr ⟨resolution, evaluated, Except.bind_eq_ok.mpr ⟨_, realized, rfl⟩⟩

/-- There is a verdict on an evaluation that ended. -/
theorem exists_ended_of_verdict {evaluation : Evaluation Slot} {holds : Bool} (h : verdict evaluation = .ok holds) :
  ∃ slot footprint, evaluation = .ended slot footprint
  := by
  cases evaluation with
  | failed error => cases h
  | ended slot footprint => exact ⟨slot, footprint, rfl⟩

/-- The dialogue that the evaluation of an expression is. -/
noncomputable def dialogue (expression : Expression) : Dialogue Slot :=
  (template.told_eval capabilities expression).choose

theorem run_dialogue (expression : Expression) (values : String → Except EvaluationError Bool) :
  (template.dialogue capabilities expression).run values
    = template.eval (capabilities.answering values) expression
  := (template.told_eval capabilities expression).choose_spec values

/-- A verdict remains when all truth values that were given are given. -/
theorem verdict_of_agree {values values' : String → Except EvaluationError Bool}
    (agree : ∀ name holds, values name = .ok holds → values' name = .ok holds) {expression : Expression}
    {holds : Bool} (h : verdict (template.eval (capabilities.answering values) expression) = .ok holds) :
  verdict (template.eval (capabilities.answering values') expression) = .ok holds
  := by
  obtain ⟨slot, footprint, ended⟩ := exists_ended_of_verdict h
  rw [ended] at h
  rw [← run_dialogue] at ended ⊢
  rw [Dialogue.run_of_agree agree ended, h]

/-! ### The bound on the depth -/

/-- The conditions that are being evaluated are different ones and declared. -/
structure Visits (visiting : List String) : Prop where
  nodup : visiting.Nodup
  declared : ∀ name ∈ visiting, name ∈ template.conditions.names

namespace Visits

variable {template : Template} {visiting : List String}

theorem nil :
  template.Visits []
  := ⟨List.nodup_nil, List.forall_mem_nil _⟩

/-- A condition is visited when it is declared and not visited yet. -/
theorem cons (visits : template.Visits visiting) {name : String} (fresh : name ∉ visiting)
    {expression : Expression} (declared : template.conditions.get? name = some expression) :
  template.Visits (name :: visiting)
  := by
  constructor
  · exact List.nodup_cons.mpr ⟨fresh, visits.nodup⟩
  · apply List.forall_mem_cons.mpr ⟨_, visits.declared⟩
    exact (Table.exists_get?_iff _ _).mp ⟨expression, declared⟩

/-- No more conditions are visited than there are. -/
theorem length_le (visits : template.Visits visiting) :
  visiting.length ≤ template.conditions.size
  := by
  have names := (List.subperm_of_subset visits.nodup visits.declared).length_le
  rwa [Table.names, List.length_map] at names

end Visits

/-- A depth is enough when it exceeds the number of conditions that are not visited. -/
def Enough (depth : Nat) (visiting : List String) : Prop := template.conditions.size < depth + visiting.length

variable {template capabilities}

/-- Depth zero is never enough. -/
theorem Visits.not_enough_zero {visiting : List String} (visits : template.Visits visiting) :
  ¬template.Enough 0 visiting
  := by
  have within := visits.length_le
  unfold Enough
  omega

/-- A depth that is enough is so for what is evaluated in turn. -/
theorem Enough.cons {depth : Nat} {visiting : List String} (enough : template.Enough (depth + 1) visiting)
    (name : String) :
  template.Enough depth (name :: visiting)
  := by
  unfold Enough at enough ⊢
  rw [List.length_cons]
  omega

/-- A depth that is enough is not reached. -/
theorem conditionValue_of_enough {depth depth' : Nat} {visiting : List String} (visits : template.Visits visiting)
    (enough : template.Enough depth visiting) (enough' : template.Enough depth' visiting) (name : String) :
  template.conditionValue capabilities depth visiting name = template.conditionValue capabilities depth' visiting name
  := by
  induction depth generalizing depth' visiting name with
  | zero => exact absurd enough visits.not_enough_zero
  | succ depth ih =>
    cases depth' with
    | zero => exact absurd enough' visits.not_enough_zero
    | succ depth' =>
      rw [conditionValue_succ, conditionValue_succ]
      split
      · rfl
      · next fresh =>
        split
        · rfl
        · next expression declared =>
          have visits := visits.cons fresh declared
          have deeper : template.conditionValue capabilities depth (name :: visiting)
              = template.conditionValue capabilities depth' (name :: visiting) :=
            funext (ih visits (enough.cons name) (enough'.cons name))
          rw [deeper]

end Template

/-! ### Memos -/

namespace ConditionValues

variable {memo memo' memo'' : ConditionValues} {visiting : List String} {name : String}

theorem value_eq_ok {holds : Bool} :
  memo.value name = .ok holds ↔ memo.get? name = some holds
  := by
  unfold value
  cases memo.get? name with
  | none => simp
  | some b => simp

/-- A memo is kept by one that holds the same, and perhaps more. -/
def Keeps (memo memo' : ConditionValues) : Prop :=
  ∀ name holds, memo.get? name = some holds → memo'.get? name = some holds

namespace Keeps

theorem refl (memo : ConditionValues) :
  Keeps memo memo
  := fun _ _ found => found

theorem trans (first : Keeps memo memo') (second : Keeps memo' memo'') :
  Keeps memo memo''
  := fun name holds found => second name holds (first name holds found)

theorem insert (fresh : memo.get? name = none) (holds : Bool) :
  Keeps memo (memo.insert name holds)
  := by
  intro other b found
  rw [Table.get?_insert, if_neg, found]
  rintro rfl
  rw [fresh] at found
  cases found

theorem value_eq_ok (keeps : Keeps memo memo') (name : String) (holds : Bool) (h : memo.value name = .ok holds) :
  memo'.value name = .ok holds
  := ConditionValues.value_eq_ok.mpr (keeps name holds (ConditionValues.value_eq_ok.mp h))

end Keeps

/-- A memo has no values of conditions that are being evaluated. -/
def Apart (memo : ConditionValues) (visiting : List String) : Prop := ∀ name ∈ visiting, memo.get? name = none

namespace Apart

theorem nil (memo : ConditionValues) :
  Apart memo []
  := List.forall_mem_nil _

theorem cons (apart : Apart memo visiting) (fresh : memo.get? name = none) :
  Apart memo (name :: visiting)
  := List.forall_mem_cons.mpr ⟨fresh, apart⟩

theorem insert (apart : Apart memo visiting) (fresh : name ∉ visiting) (holds : Bool) :
  Apart (memo.insert name holds) visiting
  := by
  intro v hv
  rw [Table.get?_insert, if_neg (ne_of_mem_of_not_mem hv fresh), apart v hv]

theorem of_insert {holds : Bool} (apart : Apart (memo.insert name holds) visiting) :
  name ∉ visiting ∧ Apart memo visiting
  := by
  have other : ∀ v ∈ visiting, v ≠ name ∧ memo.get? v = none := by
    intro v hv
    have missing := apart v hv
    rw [Table.get?_insert] at missing
    split at missing
    · cases missing
    · next different => exact ⟨different, missing⟩
  exact ⟨fun hm => (other name hm).1 rfl, fun v hv => (other v hv).2⟩

end Apart

end ConditionValues

namespace Template

open ConditionValues

variable {template : Template} {capabilities : Capabilities} {memo memo' memo'' : ConditionValues}

/-- A memo holds values that were computed one after the other, each from those before it. -/
inductive Sound (template : Template) (capabilities : Capabilities) : ConditionValues → Prop where
  | empty : Sound template capabilities .empty
  | insert {memo : ConditionValues} {name : String} {expression : Expression} {holds : Bool}
      (sound : Sound template capabilities memo) (fresh : memo.get? name = none)
      (declared : template.conditions.get? name = some expression)
      (computed : verdict (template.eval (capabilities.answering memo.value) expression) = .ok holds) :
    Sound template capabilities (memo.insert name holds)

namespace Sound

/-- What a memo holds is computed from the memo itself. -/
theorem computed (sound : Sound template capabilities memo) {name : String} {holds : Bool}
    (found : memo.get? name = some holds) :
  ∃ expression, template.conditions.get? name = some expression
    ∧ verdict (template.eval (capabilities.answering memo.value) expression) = .ok holds
  := by
  induction sound with
  | empty => simp at found
  | @insert memo last expression value _ fresh declared computed ih =>
    have kept := (Keeps.insert fresh value).value_eq_ok
    rw [Table.get?_insert] at found
    split at found
    · next same =>
      subst same
      cases found
      exact ⟨expression, declared, template.verdict_of_agree capabilities kept computed⟩
    · obtain ⟨expression, declared, computed⟩ := ih found
      exact ⟨expression, declared, template.verdict_of_agree capabilities kept computed⟩

/-- What a memo holds is the value that the condition has without one, while others are evaluated that
the memo does not hold. -/
theorem conditionValue (sound : Sound template capabilities memo) {depth : Nat} {visiting : List String}
    (visits : template.Visits visiting) (enough : template.Enough depth visiting) (apart : Apart memo visiting)
    {name : String} {holds : Bool} (found : memo.get? name = some holds) :
  template.conditionValue capabilities depth visiting name = .ok holds
  := by
  -- The value that was remembered last asks for earlier ones only, while it is visited itself.
  induction sound generalizing depth visiting name holds with
  | empty => simp at found
  | @insert memo last expression value _ fresh declared computed ih =>
    obtain ⟨unvisited, before⟩ := apart.of_insert
    rw [Table.get?_insert] at found
    split at found
    · next same =>
      subst same
      cases found
      cases depth with
      | zero => exact absurd enough visits.not_enough_zero
      | succ depth =>
        rw [conditionValue_succ, if_neg unvisited, declared]
        apply template.verdict_of_agree capabilities _ computed
        intro other b given
        exact ih (visits.cons unvisited declared) (enough.cons _) (before.cons fresh)
          (ConditionValues.value_eq_ok.mp given)
    · exact ih visits enough before found

end Sound

/-- A memo grows while conditions are evaluated that it has no values of. -/
structure Grows (template : Template) (capabilities : Capabilities) (visiting : List String)
    (memo memo' : ConditionValues) : Prop where
  sound : Sound template capabilities memo'
  apart : Apart memo' visiting
  keeps : Keeps memo memo'

theorem Grows.refl {visiting : List String} (sound : Sound template capabilities memo) (apart : Apart memo visiting) :
  Grows template capabilities visiting memo memo
  := ⟨sound, apart, .refl memo⟩

theorem Grows.trans {visiting : List String} (first : Grows template capabilities visiting memo memo')
    (second : Grows template capabilities visiting memo' memo'') :
  Grows template capabilities visiting memo memo''
  := ⟨second.sound, second.apart, first.keeps.trans second.keeps⟩

/-! ### Evaluation with a memo -/

/-- The truth value of a condition while others are being evaluated, and the memo after that; nothing
when the depth is used up.  A value that the memo holds is recalled, and a value that is found is
remembered. -/
noncomputable def recallOne (template : Template) (capabilities : Capabilities) :
    Nat → List String → ConditionValues → String → Option (Except EvaluationError Bool × ConditionValues)
  | 0, _, _, _ => none
  | depth + 1, visiting, memo, name =>
    match memo.get? name with
    | some holds => some (.ok holds, memo)
    | none =>
      if name ∈ visiting then some (.error (.conditionCycle name), memo)
      else
        match template.conditions.get? name with
        | none => some (.error (.unknownCondition name), memo)
        | some expression => do
          let (evaluation, memo) ← (template.dialogue capabilities expression).pursue
            (recallOne template capabilities depth (name :: visiting)) memo
          match verdict evaluation with
          | .ok holds => some (.ok holds, memo.insert name holds)
          | .error error => some (.error error, memo)

/-- A dialogue comes to the same with a memo as without one, when each of its answers does.  When it has
ended, the memo holds all the answers. -/
theorem exists_pursue {visiting : List String} {values : String → Except EvaluationError Bool}
    {answer : ConditionValues → String → Option (Except EvaluationError Bool × ConditionValues)}
    (each : ∀ memo name, Sound template capabilities memo → Apart memo visiting →
      ∃ memo', answer memo name = some (values name, memo') ∧ Grows template capabilities visiting memo memo'
        ∧ ∀ holds, values name = .ok holds → memo'.get? name = some holds)
    (dialogue : Dialogue Slot) (sound : Sound template capabilities memo) (apart : Apart memo visiting) :
  ∃ memo', dialogue.pursue answer memo = some (dialogue.run values, memo')
    ∧ Grows template capabilities visiting memo memo'
    ∧ ∀ slot footprint, dialogue.run values = .ended slot footprint →
      dialogue.run memo'.value = .ended slot footprint
  := by
  induction dialogue generalizing memo with
  | closed evaluation => exact ⟨memo, rfl, .refl sound apart, fun _ _ ended => ended⟩
  | asks name next ih =>
    obtain ⟨memo₁, answered, grows₁, remembered⟩ := each memo name sound apart
    simp only [Dialogue.pursue, answered, Dialogue.run]
    cases given : values name with
    | error error =>
      refine ⟨memo₁, rfl, grows₁, ?_⟩
      intro slot footprint ended
      cases ended
    | ok holds =>
      obtain ⟨memo₂, pursued, grows₂, ended₂⟩ := ih holds grows₁.sound grows₁.apart
      refine ⟨memo₂, pursued, grows₁.trans grows₂, ?_⟩
      intro slot footprint ended
      have known := grows₂.keeps.value_eq_ok name holds (value_eq_ok.mpr (remembered holds given))
      rw [known]
      exact ended₂ slot footprint ended

/-- The evaluation with a memo ends, and it comes to the same as the evaluation without one. -/
theorem exists_recallOne {depth : Nat} {visiting : List String} (visits : template.Visits visiting)
    (enough : template.Enough depth visiting) (memo : ConditionValues) (name : String)
    (sound : Sound template capabilities memo) (apart : Apart memo visiting) :
  ∃ memo', recallOne template capabilities depth visiting memo name
      = some (template.conditionValue capabilities depth visiting name, memo')
    ∧ Grows template capabilities visiting memo memo'
    ∧ ∀ holds, template.conditionValue capabilities depth visiting name = .ok holds →
      memo'.get? name = some holds
  := by
  induction depth generalizing visiting memo name with
  | zero => exact absurd enough visits.not_enough_zero
  | succ depth ih =>
    unfold recallOne
    cases found : memo.get? name with
    | some holds =>
      rw [sound.conditionValue visits enough apart found]
      refine ⟨memo, rfl, .refl sound apart, ?_⟩
      rintro _ ⟨⟩
      exact found
    | none =>
      rw [conditionValue_succ]
      dsimp only
      split
      · exact ⟨memo, rfl, .refl sound apart, nofun⟩
      · next fresh =>
        cases declared : template.conditions.get? name with
        | none => exact ⟨memo, rfl, .refl sound apart, nofun⟩
        | some expression =>
          obtain ⟨memo₁, pursued, grows₁, ended₁⟩ := exists_pursue
            (ih (visits.cons fresh declared) (enough.cons name)) (template.dialogue capabilities expression) sound
            (apart.cons found)
          obtain ⟨fresh₁, apart₁⟩ := List.forall_mem_cons.mp grows₁.apart
          rw [run_dialogue] at pursued ended₁
          dsimp only
          rw [pursued]
          dsimp only [Option.bind_eq_bind, Option.bind_some]
          cases concluded : verdict (template.eval (capabilities.answering
              (template.conditionValue capabilities depth (name :: visiting))) expression) with
          | error error => exact ⟨memo₁, rfl, ⟨grows₁.sound, apart₁, grows₁.keeps⟩, nofun⟩
          | ok holds =>
            have computed : verdict (template.eval (capabilities.answering memo₁.value) expression) = .ok holds := by
              obtain ⟨slot, footprint, ended⟩ := exists_ended_of_verdict concluded
              rw [← run_dialogue, ended₁ slot footprint ended, ← ended, concluded]
            refine ⟨memo₁.insert name holds, rfl, ⟨.insert grows₁.sound fresh₁ declared computed,
              Apart.insert apart₁ fresh holds, grows₁.keeps.trans (.insert fresh₁ holds)⟩, ?_⟩
            rintro _ ⟨⟩
            rw [Table.get?_insert, if_pos rfl]

end Template

end Reconcile
