import Mathlib.Tactic.Common
import Reconcile.Provider.InMemory

/-!
# Values without repeated names

The fields of an object have different names.  The type of values does not say so, but whatever
reads or makes a value keeps to it; where names are repeated, only the first of them can be looked
up.  For a given value it can be decided.
-/

namespace Reconcile

/-- In no object of a value a name is repeated. -/
inductive Json.Distinct : Json → Prop where
  | null : Distinct .null
  | bool (b : Bool) : Distinct (.bool b)
  | number (n : Number) : Distinct (.number n)
  | string (s : String) : Distinct (.string s)
  | list {items : List Json} (items_distinct : ∀ item ∈ items, item.Distinct) : Distinct (.list items)
  | object {fields : List (String × Json)} (nodup : (fields.map (·.1)).Nodup)
      (fields_distinct : ∀ field ∈ fields, field.2.Distinct) : Distinct (.object fields)

/-- In no value of a table a name is repeated. -/
def Table.Distinct (table : Table Json) : Prop := ∀ name value, table.get? name = some value → value.Distinct

theorem Table.distinct_empty :
  (empty : Table Json).Distinct
  := by
  intro name value found
  simp at found

theorem Table.Distinct.insert {table : Table Json} (distinct : table.Distinct) (name : String) {value : Json}
    (h : value.Distinct) :
  (table.insert name value).Distinct
  := by
  intro other value' found
  rw [get?_insert] at found
  split at found
  · obtain rfl := Option.some.inj found
    exact h
  · exact distinct other value' found

theorem Number.same_self (n : Number) :
  n.same n
  := by
  cases n with
  | int n => simp [Number.same]
  | real x => simp [Number.same, Double.same]

namespace Json

theorem Distinct.strings (texts : List String) :
  (strings texts).Distinct
  := by
  apply Distinct.list
  intro item hi
  obtain ⟨text, -, rfl⟩ := List.mem_map.mp hi
  exact .string text

theorem Distinct.of_isScalar {value : Json} (h : value.isScalar) :
  value.Distinct
  := by
  cases value with
  | null => exact .null
  | bool b => exact .bool b
  | number n => exact .number n
  | string s => exact .string s
  | list items => cases h
  | object fields => cases h

theorem Distinct.field? {value field : Json} {name : String} (distinct : value.Distinct)
    (h : value.field? name = some field) :
  field.Distinct
  := by
  cases distinct with
  | object nodup fields => apply fields _ (mem_of_lookup h)
  | _ => cases h

/-! ### Deciding that no name is repeated -/

/-- What holds of a value if it holds of its parts holds of all values. -/
theorem induction {P : Json → Prop} (null : P .null) (bool : ∀ b, P (.bool b)) (number : ∀ n, P (.number n))
    (string : ∀ s, P (.string s)) (list : ∀ items, (∀ item ∈ items, P item) → P (.list items))
    (object : ∀ fields, (∀ field ∈ fields, P field.2) → P (.object fields)) (value : Json) :
  P value
  := by
  match value with
  | .null => exact null
  | .bool b => exact bool b
  | .number n => exact number n
  | .string s => exact string s
  | .list items => exact list items fun item h => induction null bool number string list object item
  | .object fields => exact object fields fun field h => induction null bool number string list object field.2
termination_by sizeOf value
decreasing_by
  · have smaller := List.sizeOf_lt_of_mem h
    simp only [Json.list.sizeOf_spec]
    omega
  · have smaller := List.sizeOf_lt_of_mem h
    have value_smaller : sizeOf field.2 < sizeOf field := by
      rw [Prod.mk.sizeOf_spec]
      omega
    simp only [Json.object.sizeOf_spec]
    omega

mutual

/-- Whether no name is repeated in any object of a value. -/
def isDistinct : Json → Bool
  | .list items => areDistinct items
  | .object fields => decide (fields.map (·.1)).Nodup && fieldsAreDistinct fields
  | _ => true

/-- Whether no name is repeated in any object of some items. -/
def areDistinct : List Json → Bool
  | [] => true
  | item :: rest => isDistinct item && areDistinct rest

/-- Whether no name is repeated in any object of the values of some fields. -/
def fieldsAreDistinct : List (String × Json) → Bool
  | [] => true
  | (_, value) :: rest => isDistinct value && fieldsAreDistinct rest

end

theorem areDistinct_iff {items : List Json} :
  areDistinct items ↔ ∀ item ∈ items, item.isDistinct
  := by
  induction items with
  | nil => simp [areDistinct]
  | cons item rest ih => rw [areDistinct, Bool.and_eq_true, ih, List.forall_mem_cons]

theorem fieldsAreDistinct_iff {fields : List (String × Json)} :
  fieldsAreDistinct fields ↔ ∀ field ∈ fields, field.2.isDistinct
  := by
  induction fields with
  | nil => simp [fieldsAreDistinct]
  | cons field rest ih => rw [fieldsAreDistinct, Bool.and_eq_true, ih, List.forall_mem_cons]

theorem isDistinct_iff {value : Json} :
  value.isDistinct ↔ value.Distinct
  := by
  constructor
  · intro h
    induction value using induction with
    | null => exact .null
    | bool b => exact .bool b
    | number n => exact .number n
    | string s => exact .string s
    | list items ih =>
      rw [isDistinct, areDistinct_iff] at h
      exact .list fun item hi => ih item hi (h item hi)
    | object fields ih =>
      rw [isDistinct, Bool.and_eq_true, decide_eq_true_iff, fieldsAreDistinct_iff] at h
      exact .object h.1 fun field hf => ih field hf (h.2 field hf)
  · intro distinct
    induction distinct with
    | null | bool | number | string => rfl
    | list _ ih =>
      rw [isDistinct, areDistinct_iff]
      exact ih
    | object nodup _ ih =>
      rw [isDistinct, Bool.and_eq_true, decide_eq_true_iff, fieldsAreDistinct_iff]
      exact ⟨nodup, ih⟩

instance (value : Json) : Decidable value.Distinct := decidable_of_iff _ isDistinct_iff

end Json

end Reconcile
