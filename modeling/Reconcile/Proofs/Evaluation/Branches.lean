import Mathlib.Tactic.Common
import Reconcile.Proofs.Evaluation.Resolutions

/-!
# Branches that are not taken

A choice whose test has a truth value is evaluated as the branch that is taken.  The other branch
may fail or wait for anything on its own: it has no influence on the value, the dependencies or the
error of whatever expression the choice is a part of.
-/

namespace Reconcile

namespace Expression

/-! ### Contexts -/

/-- What a choice goes by. -/
inductive Test where
  /-- A condition of the template. -/
  | named (name : String)
  /-- A truth value. -/
  | value (test : Expression)

/-- The expression whose truth value decides a choice. -/
def Test.expression : Test → Expression
  | .named name => .condition name
  | .value test => test

/-- The choice by a test. -/
def Test.choice : Test → Expression → Expression → Expression
  | .named name, holds, otherwise => .ifNamed name holds otherwise
  | .value test, holds, otherwise => .ifValue test holds otherwise

/-- The choice by a test between a branch for one of its outcomes and a branch for the other. -/
def Test.branching (test : Test) (taken : Bool) (winning losing : Expression) : Expression :=
  if taken then test.choice winning losing else test.choice losing winning

/-- An expression with a hole at one place, at any depth. -/
inductive Context where
  | hole
  | item (before : List Expression) (inner : Context) (after : List Expression)
  | field (before : List (String × Expression)) (key : String) (inner : Context)
      (after : List (String × Expression))
  /-- A value that a placeholder of a text is bound to. -/
  | binding (text : String) (before : List (String × Expression)) (name : String) (inner : Context)
      (after : List (String × Expression))
  | tested (inner : Context) (holds otherwise : Expression)
  | whenTrue (test : Test) (inner : Context) (otherwise : Expression)
  | whenFalse (test : Test) (holds : Expression) (inner : Context)
  | region (inner : Context)
  | mapName (inner : Context) (top second : Expression)
  | topKey (map : Expression) (inner : Context) (second : Expression)
  | secondKey (map top : Expression) (inner : Context)
  | argument (function : Unary) (inner : Context)
  | firstArgument (function : Binary) (inner : Context) (second : Expression)
  | secondArgument (function : Binary) (first : Expression) (inner : Context)
  | operand (connective : Junction) (before : List Expression) (inner : Context) (after : List Expression)

/-- The expression that has another one in place of the hole of a context. -/
def Context.fill (context : Context) (e : Expression) : Expression :=
  match context with
  | .hole => e
  | .item before inner after => .list (before ++ inner.fill e :: after)
  | .field before key inner after => .object (before ++ (key, inner.fill e) :: after)
  | .binding text before name inner after => .sub text (before ++ (name, inner.fill e) :: after)
  | .tested inner holds otherwise => .ifValue (inner.fill e) holds otherwise
  | .whenTrue test inner otherwise => test.choice (inner.fill e) otherwise
  | .whenFalse test holds inner => test.choice holds (inner.fill e)
  | .region inner => .getAZs (inner.fill e)
  | .mapName inner top second => .findInMap (inner.fill e) top second
  | .topKey map inner second => .findInMap map (inner.fill e) second
  | .secondKey map top inner => .findInMap map top (inner.fill e)
  | .argument function inner => .unary function (inner.fill e)
  | .firstArgument function inner second => .binary function (inner.fill e) second
  | .secondArgument function first inner => .binary function first (inner.fill e)
  | .operand connective before inner after => .junction connective (before ++ inner.fill e :: after)

end Expression

namespace Template

open Expression

variable {template : Template} {capabilities : Capabilities} {e e' : Expression}

/-! ### Expressions with the same evaluation -/

section

variable (same : template.eval capabilities e = template.eval capabilities e')

include same

theorem evalItems_replace (before after : List Expression) :
  template.evalItems capabilities (before ++ e :: after) = template.evalItems capabilities (before ++ e' :: after)
  := by
  induction before with
  | nil => simp only [List.nil_append, evalItems, same]
  | cons item rest ih => simp only [List.cons_append, evalItems, ih]

theorem evalFields_replace (before : List (String × Expression)) (key : String) (after : List (String × Expression)) :
  template.evalFields capabilities (before ++ (key, e) :: after)
    = template.evalFields capabilities (before ++ (key, e') :: after)
  := by
  induction before with
  | nil => simp only [List.nil_append, evalFields, same]
  | cons field rest ih =>
    obtain ⟨other, value⟩ := field
    simp only [List.cons_append, evalFields, ih]

theorem evalVariable_replace (before : List (String × Expression)) (key : String)
    (after : List (String × Expression)) (name : String) :
  template.evalVariable capabilities name (before ++ (key, e) :: after)
    = template.evalVariable capabilities name (before ++ (key, e') :: after)
  := by
  induction before with
  | nil => simp only [List.nil_append, evalVariable, same]
  | cons field rest ih =>
    obtain ⟨other, value⟩ := field
    simp only [List.cons_append, evalVariable, ih]

theorem evalOperands_replace (connective : Junction) (before after : List Expression) :
  template.evalOperands capabilities connective (before ++ e :: after)
    = template.evalOperands capabilities connective (before ++ e' :: after)
  := by
  induction before with
  | nil => simp only [List.nil_append, evalOperands, same]
  | cons operand rest ih => simp only [List.cons_append, evalOperands, ih]

/-- Expressions with the same evaluation have it in every context. -/
theorem eval_fill (context : Context) :
  template.eval capabilities (context.fill e) = template.eval capabilities (context.fill e')
  := by
  induction context with
  | hole => exact same
  | item before inner after ih => simp only [Context.fill, eval, evalItems_replace ih]
  | field before key inner after ih => simp only [Context.fill, eval, evalFields_replace ih]
  | binding text before name inner after ih => simp only [Context.fill, eval, evalVariable_replace ih]
  | tested inner holds otherwise ih => simp only [Context.fill, eval, ih]
  | whenTrue test inner otherwise ih => cases test <;> simp only [Context.fill, Test.choice, eval, ih]
  | whenFalse test holds inner ih => cases test <;> simp only [Context.fill, Test.choice, eval, ih]
  | region inner ih => simp only [Context.fill, eval, ih]
  | mapName inner top second ih => simp only [Context.fill, eval, ih]
  | topKey map inner second ih => simp only [Context.fill, eval, ih]
  | secondKey map top inner ih => simp only [Context.fill, eval, ih]
  | argument function inner ih => simp only [Context.fill, eval, ih]
  | firstArgument function inner second ih => simp only [Context.fill, eval, ih]
  | secondArgument function first inner ih => simp only [Context.fill, eval, ih]
  | operand connective before inner after ih =>
    simp only [Context.fill, eval, evalOperands_replace ih, List.length_append, List.length_cons]

end

/-! ### Choices with a definite test -/

/-- A test has a truth value. -/
def Decides (template : Template) (capabilities : Capabilities) (test : Test) (taken : Bool) : Prop :=
  ∃ resolution, template.evaluate capabilities test.expression = .ok resolution
    ∧ resolution.realize = .ok (.bool taken)

/-- A test with a truth value has it as the argument of the choice. -/
theorem Decides.exists_slot {test : Test} {taken : Bool} (decided : template.Decides capabilities test taken) :
  ∃ slot footprint, template.eval capabilities test.expression = .ended slot footprint
    ∧ slot.argument? = some (.bool taken)
  := by
  obtain ⟨resolution, evaluated, realized⟩ := decided
  obtain ⟨slot, footprint, ended, rfl⟩ := template.evaluate_eq_ok.mp evaluated
  use slot, footprint, ended
  exact (Resolution.realize_eq_ok.mp realized).1

/-- A condition with a truth value is answered with it. -/
theorem exists_answer {name : String} {slot : Slot} {footprint : Footprint} {taken : Bool}
    (ended : template.eval capabilities (.condition name) = .ended slot footprint)
    (truth : slot.argument? = some (.bool taken)) :
  ∃ answered, evalCondition capabilities name = .ended (some taken) answered
  := by
  simp only [eval, Evaluation.bind_eq, Evaluation.pure_eq] at ended
  obtain ⟨holds, answered, _, asked, ended, -⟩ := Evaluation.andThen_eq_ended.mp ended
  cases holds with
  | none =>
    cases ended
    cases truth
  | some holds =>
    cases ended
    cases truth
    exact ⟨answered, asked⟩

/-- A choice with a definite test is evaluated as the branch that is taken, after what its test depends on. -/
theorem Decides.exists_eval_branching {test : Test} {taken : Bool}
    (decided : template.Decides capabilities test taken) :
  ∃ footprint, ∀ winning losing, template.eval capabilities (test.branching taken winning losing)
    = (Evaluation.ended () footprint).andThen fun _ => template.eval capabilities winning
  := by
  obtain ⟨slot, footprint, ended, truth⟩ := decided.exists_slot
  cases test with
  | named name =>
    obtain ⟨answered, asked⟩ := exists_answer ended truth
    use answered
    intro winning losing
    cases taken with
    | true =>
      simp only [Test.branching, if_true, Test.choice, eval, asked, Evaluation.bind_eq,
        Evaluation.ended_andThen (some _)]
    | false =>
      simp only [Test.branching, Bool.false_eq_true, if_false, Test.choice, eval, asked, Evaluation.bind_eq,
        Evaluation.ended_andThen (some _)]
  | value test =>
    rw [Test.expression] at ended
    use footprint
    intro winning losing
    have read : Evaluation.lift ((Json.bool taken).expectBool "Fn::If") = .result taken := rfl
    cases taken with
    | true =>
      simp only [Test.branching, if_true, Test.choice, eval, ended, Evaluation.bind_eq,
        Evaluation.ended_andThen slot, truth, read, Evaluation.result_andThen]
    | false =>
      simp only [Test.branching, Bool.false_eq_true, if_false, Test.choice, eval, ended, Evaluation.bind_eq,
        Evaluation.ended_andThen slot, truth, read, Evaluation.result_andThen]

/-- The branch that is not taken has no influence on the evaluation of any expression around it. -/
theorem evaluate_fill_branching (template : Template) (capabilities : Capabilities) {test : Test} {taken : Bool}
    (decided : template.Decides capabilities test taken) (context : Context)
    (winning losing other : Expression) :
  template.evaluate capabilities (context.fill (test.branching taken winning losing))
    = template.evaluate capabilities (context.fill (test.branching taken winning other))
  := by
  obtain ⟨footprint, followed⟩ := decided.exists_eval_branching
  have same := (followed winning losing).trans (followed winning other).symm
  unfold evaluate
  rw [eval_fill same context]

/-- A context of a text in a list that is joined. -/
def nested : Context :=
  .argument (.join "-") (.item [.string "a"] (.binding "$\x7bX\x7d" [] "X" .hole []) [])

/-- A branch that fails on its own, as it refers to nothing, can stand for another one that is not taken. -/
theorem evaluate_nested_branching :
  twofold.Decides .late (.named "Live") true
    ∧ twofold.evaluate .late (.ref "Nowhere") = .error (.unknownReference "Nowhere")
    ∧ twofold.evaluate .late (nested.fill ((Test.named "Live").branching true (.ref "Name") (.ref "Nowhere")))
      = twofold.evaluate .late (nested.fill ((Test.named "Live").branching true (.ref "Name") (.getAtt "Base" "Arn")))
  := by
  have decided : twofold.Decides .late (.named "Live") true := by
    refine ⟨⟨some (.bool true), [.condition "Live"], []⟩, ?_, rfl⟩
    apply twofold.evaluate_eq_ok.mpr
    refine ⟨.ready (.bool true), ⟨[.condition "Live"], []⟩, rfl, ?_⟩
    rw [arranged_eq_self (by decide) (by decide), arranged_eq_self (by decide) (by decide)]
    rfl
  refine ⟨decided, ?_, ?_⟩
  · exact twofold.evaluate_eq_error.mpr rfl
  · exact evaluate_fill_branching twofold .late decided nested _ _ _

end Template

end Reconcile
