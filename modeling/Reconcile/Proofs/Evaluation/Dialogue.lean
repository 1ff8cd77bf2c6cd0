import Mathlib.Tactic.Common
import Reconcile.Proofs.Evaluation.Inquiry

/-!
# Evaluations as dialogues

An evaluation asks for the truth values of conditions one after the other.  What it asks for next,
and what it ends with, depends on the answers so far and on nothing else.  So whoever answers may
keep a memory of the answers, and may take the answers from evaluations of the same kind.
-/

namespace Reconcile

/-- A computation that asks for the truth values of conditions. -/
inductive Dialogue (α : Type) where
  | closed (evaluation : Evaluation α)
  | asks (name : String) (next : Bool → Dialogue α)

namespace Dialogue

variable {α β : Type}

/-- What comes of a dialogue with given answers. -/
def run (values : String → Except EvaluationError Bool) : Dialogue α → Evaluation α
  | .closed evaluation => evaluation
  | .asks name next =>
    match values name with
    | .ok holds => (next holds).run values
    | .error error => .failed error

/-- A dialogue after a computation with a footprint. -/
def after (footprint : Footprint) : Dialogue α → Dialogue α
  | .closed evaluation => .closed ((Evaluation.ended () footprint).andThen fun _ => evaluation)
  | .asks name next => .asks name fun holds => (next holds).after footprint

/-- A dialogue followed by one that depends on its result. -/
def andThen (next : α → Dialogue β) : Dialogue α → Dialogue β
  | .closed (.failed error) => .closed (.failed error)
  | .closed (.ended a footprint) => (next a).after footprint
  | .asks name more => .asks name fun holds => (more holds).andThen next

theorem run_after (values : String → Except EvaluationError Bool) (footprint : Footprint) (dialogue : Dialogue α) :
  (dialogue.after footprint).run values = (Evaluation.ended () footprint).andThen fun _ => dialogue.run values
  := by
  induction dialogue with
  | closed evaluation => rfl
  | asks name next ih =>
    simp only [after, run]
    cases values name with
    | ok holds => exact ih holds
    | error error => rfl

theorem run_andThen (values : String → Except EvaluationError Bool) (next : α → Dialogue β) (dialogue : Dialogue α) :
  (dialogue.andThen next).run values = (dialogue.run values).andThen fun a => (next a).run values
  := by
  induction dialogue with
  | closed evaluation =>
    cases evaluation with
    | failed error => rfl
    | ended a footprint => exact run_after values footprint (next a)
  | asks name more ih =>
    simp only [andThen, run]
    cases values name with
    | ok holds => exact ih holds
    | error error => rfl

/-- A dialogue that ended ends so whenever all answers that were given are given. -/
theorem run_of_agree {values values' : String → Except EvaluationError Bool}
    (agree : ∀ name holds, values name = .ok holds → values' name = .ok holds) {dialogue : Dialogue α} {a : α}
    {footprint : Footprint} (ended : dialogue.run values = .ended a footprint) :
  dialogue.run values' = .ended a footprint
  := by
  induction dialogue with
  | closed evaluation => exact ended
  | asks name next ih =>
    simp only [run] at ended ⊢
    cases given : values name with
    | ok holds =>
      rw [given] at ended
      rw [agree name holds given]
      exact ih holds ended
    | error error =>
      rw [given] at ended
      cases ended

/-! ### Answers with a memory -/

/-- What comes of a dialogue, and of a memory, when each answer may depend on the memory and change
it; nothing when an answer does not come. -/
def pursue {μ : Type} (answer : μ → String → Option (Except EvaluationError Bool × μ)) :
    Dialogue α → μ → Option (Evaluation α × μ)
  | .closed evaluation, memory => some (evaluation, memory)
  | .asks name next, memory => do
    let (outcome, memory) ← answer memory name
    match outcome with
    | .ok holds => (next holds).pursue answer memory
    | .error error => some (.failed error, memory)

end Dialogue

/-! ### Computations that are dialogues -/

/-- A computation from truth values of conditions is a dialogue. -/
def Told {α : Type} (inquiry : (String → Except EvaluationError Bool) → Evaluation α) : Prop :=
  ∃ dialogue : Dialogue α, ∀ values, dialogue.run values = inquiry values

namespace Told

variable {α β : Type}

/-- A computation that asks for no conditions is a dialogue. -/
theorem silent (evaluation : Evaluation α) :
  Told fun _ => evaluation
  := ⟨.closed evaluation, fun _ => rfl⟩

/-- Dialogues one after the other are a dialogue. -/
theorem andThen {first : (String → Except EvaluationError Bool) → Evaluation α}
    {next : α → (String → Except EvaluationError Bool) → Evaluation β} (hf : Told first) (hn : ∀ a, Told (next a)) :
  Told fun values => (first values).andThen fun a => next a values
  := by
  obtain ⟨dialogue, told⟩ := hf
  choose more toldMore using hn
  use dialogue.andThen more
  intro values
  simp only [Dialogue.run_andThen, told, toldMore]

end Told

/-- A bundle of capabilities with other truth values of conditions. -/
def Capabilities.answering (capabilities : Capabilities) (values : String → Except EvaluationError Bool) :
    Capabilities :=
  { capabilities with conditions := some values }

namespace Template

variable (template : Template) (capabilities : Capabilities)

/-! ### Questions -/

theorem told_evalCondition (name : String) :
  Told fun values => evalCondition (capabilities.answering values) name
  := by
  use .asks name fun holds => .closed (.depending (.condition name) (some holds))
  intro values
  cases given : values name with
  | ok holds => simp only [Dialogue.run, evalCondition, Capabilities.answering, given]
  | error error => simp only [Dialogue.run, evalCondition, Capabilities.answering, given]

/-! ### What asks for no conditions -/

theorem evalRef_answering (values : String → Except EvaluationError Bool) (name : String) :
  template.evalRef (capabilities.answering values) name = template.evalRef capabilities name
  := rfl

theorem evalGetAtt_answering (values : String → Except EvaluationError Bool) (logicalId attr : String) :
  template.evalGetAtt (capabilities.answering values) logicalId attr = template.evalGetAtt capabilities logicalId attr
  := rfl

theorem evalRefs_answering (values : String → Except EvaluationError Bool) (names : List String) :
  template.evalRefs (capabilities.answering values) names = template.evalRefs capabilities names
  := by
  induction names with
  | nil => rfl
  | cons name rest ih => simp only [evalRefs, evalRef_answering, ih]

/-! ### Expressions -/

theorem told_evalSegments {binding : String → Option Expression} (segments : List Segment)
    (bound : ∀ name value, binding name = some value →
      Told fun values => template.eval (capabilities.answering values) value) :
  Told fun values => template.evalSegments (capabilities.answering values)
    (fun name => (binding name).map (template.eval (capabilities.answering values))) segments
  := by
  induction segments with
  | nil => exact .silent _
  | cons segment rest ih =>
    cases segment with
    | literal text =>
      simp only [evalSegments, Evaluation.bind_eq, Evaluation.pure_eq]
      apply ih.andThen
      intro after
      exact .silent _
    | placeholder name =>
      simp only [evalSegments, Evaluation.bind_eq, Evaluation.pure_eq]
      apply Told.andThen
      · cases hv : binding name with
        | some value => apply bound name value hv
        | none => exact .silent (template.evalPlaceholder capabilities name)
      · intro slot
        apply (Told.silent slot.writtenText).andThen
        intro text
        apply ih.andThen
        intro after
        exact .silent _

mutual

/-- The evaluation of an expression is a dialogue. -/
theorem told_eval (expression : Expression) :
  Told fun values => template.eval (capabilities.answering values) expression
  := by
  cases expression with
  | null | bool | number | string | ref | getAtt =>
    simp only [eval, evalRef_answering, evalGetAtt_answering]
    exact .silent _
  | list items =>
    simp only [eval, Evaluation.bind_eq, Evaluation.pure_eq]
    apply (told_evalItems items).andThen
    intro slots
    exact .silent _
  | object fields =>
    simp only [eval, Evaluation.bind_eq, Evaluation.pure_eq]
    apply (told_evalFields fields).andThen
    intro slots
    exact .silent _
  | sub text bound =>
    simp only [eval, evalVariable_eq, Evaluation.bind_eq, Evaluation.pure_eq]
    apply Told.andThen
    · apply told_evalSegments
      intro name value hv
      exact told_variable bound hv
    · intro text
      exact .silent _
  | refAll type =>
    simp only [eval, evalRefs_answering]
    exact .silent _
  | condition name =>
    simp only [eval, Evaluation.bind_eq, Evaluation.pure_eq]
    apply (told_evalCondition capabilities name).andThen
    intro holds
    cases holds with
    | none => exact .silent _
    | some holds => exact .silent _
  | ifNamed name holds otherwise =>
    simp only [eval, Evaluation.bind_eq, Evaluation.pure_eq]
    apply (told_evalCondition capabilities name).andThen
    intro test
    match test with
    | none => exact .silent _
    | some true => exact told_eval holds
    | some false => exact told_eval otherwise
  | ifValue test holds otherwise =>
    simp only [eval, Evaluation.bind_eq, Evaluation.pure_eq]
    apply (told_eval test).andThen
    intro slot
    cases slot.argument? with
    | none => exact .silent _
    | some value =>
      apply (Told.silent (.lift (value.expectBool "Fn::If"))).andThen
      intro taken
      match taken with
      | true => exact told_eval holds
      | false => exact told_eval otherwise
  | getAZs region =>
    simp only [eval, Evaluation.bind_eq, Evaluation.pure_eq]
    apply (told_eval region).andThen
    intro slot
    cases slot.argument? with
    | none => exact .silent _
    | some region => exact .silent (template.evalZones capabilities region)
  | findInMap map top second =>
    simp only [eval, Evaluation.bind_eq, Evaluation.pure_eq]
    apply (told_eval map).andThen
    intro map
    apply (told_eval top).andThen
    intro top
    apply (told_eval second).andThen
    intro second
    exact .silent _
  | unary function argument =>
    simp only [eval, Evaluation.bind_eq]
    apply (Told.silent (.lift function.check)).andThen
    intro _
    apply (told_eval argument).andThen
    intro slot
    exact .silent _
  | binary function first second =>
    simp only [eval, Evaluation.bind_eq, Evaluation.pure_eq]
    apply (told_eval first).andThen
    intro first
    apply (told_eval second).andThen
    intro second
    exact .silent _
  | junction connective operands =>
    simp only [eval, Evaluation.bind_eq, Evaluation.pure_eq]
    apply (Told.silent (.lift (connective.check operands.length))).andThen
    intro _
    apply (told_evalOperands connective operands).andThen
    intro truths
    exact .silent _

theorem told_evalItems (items : List Expression) :
  Told fun values => template.evalItems (capabilities.answering values) items
  := by
  cases items with
  | nil =>
    simp only [evalItems]
    exact .silent _
  | cons item rest =>
    simp only [evalItems, Evaluation.bind_eq, Evaluation.pure_eq]
    apply (told_eval item).andThen
    intro slot
    apply (told_evalItems rest).andThen
    intro slots
    exact .silent _

theorem told_evalFields (fields : List (String × Expression)) :
  Told fun values => template.evalFields (capabilities.answering values) fields
  := by
  match fields with
  | [] =>
    simp only [evalFields]
    exact .silent _
  | (key, value) :: rest =>
    simp only [evalFields, Evaluation.bind_eq, Evaluation.pure_eq]
    apply (told_eval value).andThen
    intro slot
    apply (told_evalFields rest).andThen
    intro slots
    exact .silent _

theorem told_variable (fields : List (String × Expression)) {name : String} {value : Expression}
    (hv : lookup name fields = some value) :
  Told fun values => template.eval (capabilities.answering values) value
  := by
  match fields with
  | [] => cases hv
  | (key, first) :: rest =>
    simp only [lookup] at hv
    split at hv
    · rw [← Option.some.inj hv]
      exact told_eval first
    · exact told_variable rest hv

theorem told_evalOperands (connective : Junction) (operands : List Expression) :
  Told fun values => template.evalOperands (capabilities.answering values) connective operands
  := by
  cases operands with
  | nil =>
    simp only [evalOperands]
    exact .silent _
  | cons operand rest =>
    simp only [evalOperands, Evaluation.bind_eq, Evaluation.pure_eq]
    apply (told_eval operand).andThen
    intro slot
    apply (Told.silent (slot.truth connective.name)).andThen
    intro truth
    apply (told_evalOperands connective rest).andThen
    intro truths
    exact .silent _

end

end Template

end Reconcile
