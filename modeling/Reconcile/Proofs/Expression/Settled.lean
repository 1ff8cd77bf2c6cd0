import Mathlib.Tactic.Common
import Reconcile.Proofs.Document.Distinct

/-!
# Settled values

Some calls can be written in two ways.  A settled value has each of them in one: an attribute is a
list of two texts, and a text without variables stands alone.  Settling keeps the roles of all
objects and the order of their names, and it keeps all numbers.
-/

namespace Reconcile

/-! ### Settled values -/

namespace Json

mutual

/-- A value in which every call of a function that can be written in two ways is written in one of them. -/
def settled : Json → Json
  | .list items => .list (settledItems items)
  | .object [(key, argument)] =>
    if Expression.isCall key argument then .object [(key, settledArgument key argument)]
    else .object [(key, settled argument)]
  | .object fields => .object (settledFields fields)
  | value => value

/-- Settled items. -/
def settledItems : List Json → List Json
  | [] => []
  | item :: rest => settled item :: settledItems rest

/-- Fields with settled values. -/
def settledFields : List (String × Json) → List (String × Json)
  | [] => []
  | (key, value) :: rest => (key, settled value) :: settledFields rest

/-- The settled argument of a function: an attribute is split at its first dot, and a text without
variables stands alone.  The variables of a text are no call, whatever their names. -/
def settledArgument (function : String) (argument : Json) : Json :=
  match function, argument with
  | "Fn::GetAtt", .string dotted =>
    match Text.splitOnce '.' dotted with
    | some (logicalId, attr) => .list [.string logicalId, .string attr]
    | none => .string dotted
  | "Fn::Sub", .list [.string text, .object []] => .string text
  | "Fn::Sub", .list [.string text, .object bound] => .list [.string text, .object (settledFields bound)]
  | _, argument => settled argument

end

/-! ### Roles and numbers -/

/-- What an object of a value is. -/
inductive Role where
  /-- The call of a function. -/
  | call
  /-- The variables of a text. -/
  | bindings
  | map
  deriving DecidableEq

mutual

/-- The objects of a value, outside in, with their roles and names in order.  A text without
variables has no object for them. -/
def objects : Json → List (Role × List String)
  | .list items => objectsOfItems items
  | .object [(key, argument)] =>
    if Expression.isCall key argument then (.call, [key]) :: objectsOfArgument key argument
    else (.map, [key]) :: objects argument
  | .object fields => (.map, fields.map (·.1)) :: objectsOfFields fields
  | _ => []

/-- The objects of some items. -/
def objectsOfItems : List Json → List (Role × List String)
  | [] => []
  | item :: rest => objects item ++ objectsOfItems rest

/-- The objects of the values of some fields. -/
def objectsOfFields : List (String × Json) → List (Role × List String)
  | [] => []
  | (_, value) :: rest => objects value ++ objectsOfFields rest

/-- The objects of the argument of a function. -/
def objectsOfArgument (function : String) (argument : Json) : List (Role × List String) :=
  match function, argument with
  | "Fn::Sub", .list [.string _, .object []] => []
  | "Fn::Sub", .list [.string _, .object bound] => (.bindings, bound.map (·.1)) :: objectsOfFields bound
  | _, argument => objects argument

end

mutual

/-- The numbers of a value in order. -/
def numbers : Json → List Number
  | .number n => [n]
  | .list items => numbersOfItems items
  | .object fields => numbersOfFields fields
  | _ => []

/-- The numbers of some items. -/
def numbersOfItems : List Json → List Number
  | [] => []
  | item :: rest => numbers item ++ numbersOfItems rest

/-- The numbers of the values of some fields. -/
def numbersOfFields : List (String × Json) → List Number
  | [] => []
  | (_, value) :: rest => numbers value ++ numbersOfFields rest

end

end Json

namespace Expression

/-! ### Names and shapes of calls -/

/-- A shape is that of the function with a name. -/
def Shape.Fits (function : String) : Shape → Prop
  | .name => function = "Ref"
  | .conditionName => function = "Condition"
  | .typeName => function = "Fn::RefAll"
  | .member => function = "Fn::GetAtt"
  | .text => function = "Fn::Sub"
  | .region => function = "Fn::GetAZs"
  | .mapping => function = "Fn::FindInMap"
  | .choice => function = "Fn::If"
  | .one f => f.name = function ∧ ∀ argument, unaryArgument argument f = argument
  | .listed f => f.name = function ∧ ∀ argument, unaryArgument argument f = .list [argument]
  | .delimited f => ∀ delimiter, (f delimiter).name = function
      ∧ ∀ argument, unaryArgument argument (f delimiter) = .list [.string delimiter, argument]
  | .two f => f.name = function
  | .many f => f.name = function

theorem fits_of_shape? {function : String} {shape : Shape} (h : shape? function = some shape) :
  shape.Fits function
  := by
  unfold shape? at h
  split at h
  all_goals cases h
  all_goals simp only [Shape.Fits, Unary.name, Binary.name, Junction.name, unaryArgument, implies_true, and_self]

/-- Only an attribute and a text have an argument with a settled form of its own. -/
theorem settledArgument_eq {function : String} {shape : Shape} (h : shape? function = some shape)
    (not_member : shape ≠ .member) (not_text : shape ≠ .text) (argument : Json) :
  argument.settledArgument function = argument.settled
  := by
  unfold Json.settledArgument
  split
  · exact absurd (Option.some.inj h).symm not_member
  · exact absurd (Option.some.inj h).symm not_text
  · exact absurd (Option.some.inj h).symm not_text
  · rfl

end Expression

namespace Json

open Expression

/-! ### What settling keeps -/

theorem isCall_of_ne {key : String} (h : key ≠ "Condition") (argument argument' : Json) :
  isCall key argument = isCall key argument'
  := by
  have other : (key == "Condition") = false := beq_eq_false_iff_ne.mpr h
  simp only [isCall, other, Bool.false_and]

theorem settled_string (s : String) :
  (string s).settled = .string s
  := by
  simp only [settled]

/-- A settled value is a text only when it was one. -/
theorem settled_eq_string {value : Json} {s : String} (h : value.settled = .string s) :
  value = .string s
  := by
  match value with
  | .string t => simpa only [settled] using h
  | .object [(key, argument)] =>
    simp only [settled] at h
    split at h
    · cases h
    · cases h
  | .object [] => simp only [settled, reduceCtorEq] at h
  | .object (first :: second :: rest) => simp only [settled, reduceCtorEq] at h
  | .null | .bool _ | .number _ | .list _ => simp only [settled, reduceCtorEq] at h

theorem isCall_settled (key : String) (value : Json) :
  isCall key value.settled = isCall key value
  := by
  by_cases hk : key = "Condition"
  · subst hk
    match value with
    | .string s => simp only [settled]
    | .object [(key, argument)] =>
      simp only [settled]
      split
      · rfl
      · rfl
    | .object [] => simp only [settled, isCall]
    | .object (first :: second :: rest) => simp only [settled, isCall]
    | .null | .bool _ | .number _ | .list _ => simp only [settled, isCall]
  · exact isCall_of_ne hk _ _

theorem isCall_settledArgument (key : String) (argument : Json) :
  isCall key (argument.settledArgument key) = isCall key argument
  := by
  by_cases hk : key = "Condition"
  · subst hk
    have shape : shape? "Condition" = some .conditionName := rfl
    rw [settledArgument_eq shape nofun nofun, isCall_settled]
  · exact isCall_of_ne hk _ _

/-- A settled value is an object only when it was one. -/
theorem settled_eq_object {value : Json} {fields : List (String × Json)} (h : value.settled = .object fields) :
  ∃ fields', value = .object fields'
  := by
  match value with
  | .object fields' => exact ⟨fields', rfl⟩
  | .null | .bool _ | .number _ | .string _ | .list _ => simp only [settled, reduceCtorEq] at h

/-- A settled value is null only when it was. -/
theorem settled_eq_null {value : Json} (h : value.settled = .null) :
  value = .null
  := by
  match value with
  | .null => rfl
  | .object [(key, argument)] =>
    simp only [settled] at h
    split at h
    · cases h
    · cases h
  | .object [] | .object (_ :: _ :: _) | .bool _ | .number _ | .string _ | .list _ =>
    simp only [settled, reduceCtorEq] at h

/-- A settled value is a text with variables only when it was one. -/
theorem settled_eq_bindings {value : Json} {text : String} {bound : List (String × Json)}
    (h : value.settled = .list [.string text, .object bound]) :
  ∃ bound', value = .list [.string text, .object bound']
  := by
  match value with
  | .list [first, second] =>
    simp only [settled, settledItems, Json.list.injEq, List.cons.injEq, and_true] at h
    obtain rfl := settled_eq_string h.1
    obtain ⟨bound', rfl⟩ := settled_eq_object h.2
    exact ⟨bound', rfl⟩
  | .list [] | .list [_] | .list (_ :: _ :: _ :: _) => simp [settled, settledItems] at h
  | .object [(key, argument)] =>
    simp only [settled] at h
    split at h
    · cases h
    · cases h
  | .object [] | .object (_ :: _ :: _) | .null | .bool _ | .number _ | .string _ =>
    simp only [settled, reduceCtorEq] at h

theorem names_settledFields (fields : List (String × Json)) :
  (settledFields fields).map (·.1) = fields.map (·.1)
  := by
  induction fields with
  | nil => simp only [settledFields]
  | cons field rest ih =>
    obtain ⟨key, value⟩ := field
    simp only [settledFields, List.map_cons, ih]

/-- The objects of an argument that does not bind variables. -/
theorem objectsOfArgument_eq {function : String} {argument : Json}
    (h : ∀ text bound, function = "Fn::Sub" → argument ≠ .list [.string text, .object bound]) :
  objectsOfArgument function argument = argument.objects
  := by
  unfold objectsOfArgument
  split
  · exact absurd rfl (h _ _ rfl)
  · exact absurd rfl (h _ _ rfl)
  · rfl

mutual

/-- Settling keeps the roles, the names and the order of the names of all objects. -/
theorem objects_settled (value : Json) :
  value.settled.objects = value.objects
  := by
  match value with
  | .null | .bool _ | .number _ | .string _ => simp only [settled]
  | .list items => simp only [settled, objects, objectsOfItems_settled items]
  | .object [(key, argument)] =>
    simp only [settled]
    split
    · next named =>
      have still := (isCall_settledArgument key argument).trans named
      simp only [objects, named, still, if_true, objectsOfArgument_settled key argument]
    · next plain => simp only [objects, isCall_settled, if_neg plain, objects_settled argument]
  | .object [] => simp only [settled, settledFields]
  | .object ((key, first) :: (key', second) :: rest) =>
    have names := names_settledFields ((key, first) :: (key', second) :: rest)
    have inner := objectsOfFields_settled ((key, first) :: (key', second) :: rest)
    simp only [settledFields] at names inner
    simp only [settled, settledFields, objects, names, inner]
termination_by (sizeOf value, 0)

theorem objectsOfItems_settled (items : List Json) :
  objectsOfItems (settledItems items) = objectsOfItems items
  := by
  match items with
  | [] => simp only [settledItems]
  | item :: rest =>
    simp only [settledItems, objectsOfItems, objects_settled item, objectsOfItems_settled rest]
termination_by (sizeOf items, 0)

theorem objectsOfFields_settled (fields : List (String × Json)) :
  objectsOfFields (settledFields fields) = objectsOfFields fields
  := by
  match fields with
  | [] => simp only [settledFields]
  | (key, value) :: rest =>
    simp only [settledFields, objectsOfFields, objects_settled value, objectsOfFields_settled rest]
termination_by (sizeOf fields, 0)

theorem objectsOfArgument_settled (function : String) (argument : Json) :
  objectsOfArgument function (argument.settledArgument function) = objectsOfArgument function argument
  := by
  unfold settledArgument
  split
  · split
    · rw [objectsOfArgument_eq (by simp), objectsOfArgument_eq (by simp)]
      simp only [objects, objectsOfItems, List.append_nil]
    · rw [objectsOfArgument_eq (by simp)]
  · rw [objectsOfArgument_eq (by simp)]
    simp only [objectsOfArgument, objects]
  · next text bound nonempty =>
    have names := names_settledFields bound
    have inner := objectsOfFields_settled bound
    match bound, nonempty with
    | (key, value) :: rest, nonempty =>
      simp only [settledFields] at names inner
      simp only [settledFields, objectsOfArgument, names, inner]
  · next not_attr not_text not_bound =>
    have inner := objects_settled argument
    rw [objectsOfArgument_eq not_bound, objectsOfArgument_eq, inner]
    rintro text bound named settled
    obtain ⟨bound', rfl⟩ := settled_eq_bindings settled
    exact not_bound text bound' named rfl
termination_by (sizeOf argument, 1)

end

mutual

/-- Settling keeps all numbers. -/
theorem numbers_settled (value : Json) :
  value.settled.numbers = value.numbers
  := by
  match value with
  | .null | .bool _ | .number _ | .string _ => simp only [settled]
  | .list items => simp only [settled, numbers, numbersOfItems_settled items]
  | .object [(key, argument)] =>
    simp only [settled]
    split
    · simp only [numbers, numbersOfFields, numbers_settledArgument key argument]
    · simp only [numbers, numbersOfFields, numbers_settled argument]
  | .object [] => simp only [settled, settledFields]
  | .object ((key, first) :: (key', second) :: rest) =>
    simp only [settled, numbers, numbersOfFields_settled ((key, first) :: (key', second) :: rest)]
termination_by (sizeOf value, 0)

theorem numbersOfItems_settled (items : List Json) :
  numbersOfItems (settledItems items) = numbersOfItems items
  := by
  match items with
  | [] => simp only [settledItems]
  | item :: rest =>
    simp only [settledItems, numbersOfItems, numbers_settled item, numbersOfItems_settled rest]
termination_by (sizeOf items, 0)

theorem numbersOfFields_settled (fields : List (String × Json)) :
  numbersOfFields (settledFields fields) = numbersOfFields fields
  := by
  match fields with
  | [] => simp only [settledFields]
  | (key, value) :: rest =>
    simp only [settledFields, numbersOfFields, numbers_settled value, numbersOfFields_settled rest]
termination_by (sizeOf fields, 0)

theorem numbers_settledArgument (function : String) (argument : Json) :
  (argument.settledArgument function).numbers = argument.numbers
  := by
  unfold settledArgument
  split
  · split
    · simp only [numbers, numbersOfItems, List.append_nil]
    · rfl
  · simp only [numbers, numbersOfItems, numbersOfFields, List.append_nil]
  · next text bound nonempty =>
    simp only [numbers, numbersOfItems, numbersOfFields_settled bound]
  · exact numbers_settled argument
termination_by (sizeOf argument, 1)

end

mutual

/-- Settling repeats no names. -/
theorem distinct_settled (value : Json) (distinct : value.Distinct) :
  value.settled.Distinct
  := by
  match value, distinct with
  | .null, distinct | .bool _, distinct | .number _, distinct | .string _, distinct =>
    simpa only [settled] using distinct
  | .list items, .list distinct =>
    simp only [settled]
    exact .list (distinct_settledItems items distinct)
  | .object [(key, argument)], .object nodup distinct =>
    have inner : argument.Distinct := distinct (key, argument) List.mem_cons_self
    simp only [settled]
    split
    · exact .object (by simp) (List.forall_mem_singleton.mpr (distinct_settledArgument key argument inner))
    · exact .object (by simp) (List.forall_mem_singleton.mpr (distinct_settled argument inner))
  | .object [], distinct =>
    simp only [settled, settledFields]
    exact distinct
  | .object ((key, first) :: (key', second) :: rest), .object nodup distinct =>
    simp only [settled]
    exact distinct_settledObject ((key, first) :: (key', second) :: rest) nodup distinct
termination_by (sizeOf value, 0)

theorem distinct_settledItems (items : List Json) (distinct : ∀ item ∈ items, item.Distinct) :
  ∀ item ∈ settledItems items, item.Distinct
  := by
  match items with
  | [] =>
    simp only [settledItems]
    exact List.forall_mem_nil _
  | item :: rest =>
    obtain ⟨first, distinct⟩ := List.forall_mem_cons.mp distinct
    simp only [settledItems]
    exact List.forall_mem_cons.mpr ⟨distinct_settled item first, distinct_settledItems rest distinct⟩
termination_by (sizeOf items, 0)

theorem distinct_settledFields (fields : List (String × Json)) (distinct : ∀ field ∈ fields, field.2.Distinct) :
  ∀ field ∈ settledFields fields, field.2.Distinct
  := by
  match fields with
  | [] =>
    simp only [settledFields]
    exact List.forall_mem_nil _
  | (key, value) :: rest =>
    obtain ⟨first, distinct⟩ := List.forall_mem_cons.mp distinct
    simp only [settledFields]
    exact List.forall_mem_cons.mpr ⟨distinct_settled value first, distinct_settledFields rest distinct⟩
termination_by (sizeOf fields, 0)

theorem distinct_settledObject (fields : List (String × Json)) (nodup : (fields.map (·.1)).Nodup)
    (distinct : ∀ field ∈ fields, field.2.Distinct) :
  (object (settledFields fields)).Distinct
  := .object (names_settledFields fields ▸ nodup) (distinct_settledFields fields distinct)
termination_by (sizeOf fields, 1)

theorem distinct_settledArgument (function : String) (argument : Json) (distinct : argument.Distinct) :
  (argument.settledArgument function).Distinct
  := by
  unfold settledArgument
  split
  · split
    · exact .list (List.forall_mem_cons.mpr ⟨.string _, List.forall_mem_singleton.mpr (.string _)⟩)
    · exact distinct
  · exact .string _
  · next text bound _ =>
    match distinct with
    | .list distinct =>
      match distinct (.object bound) (by simp) with
      | .object nodup distinct =>
        have inner := distinct_settledObject bound nodup distinct
        exact .list (List.forall_mem_cons.mpr ⟨.string _, List.forall_mem_singleton.mpr inner⟩)
  · exact distinct_settled argument distinct
termination_by (sizeOf argument, 1)

end

end Json

end Reconcile
