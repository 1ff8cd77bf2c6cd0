import Mathlib
import Reconcile.Inputs.Parameters
import Reconcile.Proofs.Number.Order

/-!
# Bounds of parameters

A value is accepted for a parameter when nothing is wrong with any of the texts it consists of.  What is wrong with a
number is that it is less than the least one or greater than the greatest; so a number that is accepted keeps to the
bounds.  But what is no number is neither less nor greater than anything, and is accepted within any bounds.
-/

namespace Reconcile

/-- The items of a value: those of a list, and any other value by itself. -/
def Json.items : Json → List Json
  | .list items => items
  | value => [value]

namespace Parameter

variable {p : Parameter} {name text : String} {value : Json}

/-! ### Accepted values -/

/-- The texts that are checked for a parameter: the items of a list, and any other text as a whole. -/
def textsOf (p : Parameter) (text : String) : List String := if p.type.isList then itemsOf text else [text]

/-- A text is accepted when nothing is wrong with any of those it consists of. -/
theorem validate_eq_ok :
  p.validate name text = .ok value
    ↔ (∀ item ∈ p.textsOf text, p.fault? item = none)
      ∧ value = if p.type.isList then .strings (p.textsOf text) else .string text
  := by
  rw [← List.findSome?_eq_none_iff, validate, ← textsOf]
  cases found : (p.textsOf text).findSome? p.fault? with
  | some violation => simp
  | none =>
    constructor
    · rintro ⟨⟩
      exact ⟨rfl, rfl⟩
    · rintro ⟨-, rfl⟩
      rfl

theorem items_of_validate (accepted : p.validate name text = .ok value) :
  value.items = (p.textsOf text).map .string
  := by
  obtain ⟨-, rfl⟩ := validate_eq_ok.mp accepted
  unfold textsOf
  split
  · rfl
  · rfl

theorem fault?_eq_none :
  p.fault? text = none
    ↔ (if p.type.isNumeric then p.boundFault? text else p.lengthFault? text) = none
      ∧ p.patternFault? text = none ∧ p.choiceFault? text = none
  := by
  simp [fault?, Option.or_eq_none_iff]

/-! ### Bounds -/

/-- A number keeps to the bounds of a parameter, as far as there are any. -/
structure Bounds (p : Parameter) (x : Extended) : Prop where
  least : ∀ bound, p.minValue = some bound → bound.AtMost x
  greatest : ∀ bound, p.maxValue = some bound → x.AtMost bound

/-- What passes the check of the bounds is the text of a number that violates none of them. -/
theorem boundFault?_eq_none :
  p.boundFault? text = none
    ↔ ∃ x, Extended.ofText? text.toList = some x
      ∧ (∀ bound, p.minValue = some bound → ¬ x.lt bound) ∧ ∀ bound, p.maxValue = some bound → ¬ bound.lt x
  := by
  unfold boundFault?
  cases Extended.ofText? text.toList with
  | none => simp
  | some x =>
    cases hl : p.minValue.filter x.lt with
    | some bound =>
      obtain ⟨declared, below⟩ := Option.filter_eq_some_iff.mp hl
      simp only [hl]
      simp [declared, below]
    | none =>
      have least := Option.filter_eq_none_iff.mp hl
      cases hg : p.maxValue.filter (Extended.lt · x) with
      | some bound =>
        obtain ⟨declared, above⟩ := Option.filter_eq_some_iff.mp hg
        simp only [hl, hg]
        simp [declared, above]
      | none =>
        have greatest := Option.filter_eq_none_iff.mp hg
        simp only [hl, hg]
        simpa only [true_iff, Option.some.injEq, exists_eq_left'] using ⟨least, greatest⟩

/-- A number that violates no bound keeps to them all, if it can be compared with them. -/
theorem bounds_iff {x : Extended} (least : ∀ bound, p.minValue = some bound → ¬ x.lt bound)
    (greatest : ∀ bound, p.maxValue = some bound → ¬ bound.lt x) :
  p.Bounds x ↔ ∀ bound, p.minValue = some bound ∨ p.maxValue = some bound → x ≠ .nan ∧ bound ≠ .nan
  := by
  constructor
  · rintro bounds bound (declared | declared)
    · obtain ⟨number, number', -⟩ := (Extended.atMost_iff _ _).mp (bounds.least bound declared)
      exact ⟨number', number⟩
    · obtain ⟨number, number', -⟩ := (Extended.atMost_iff _ _).mp (bounds.greatest bound declared)
      exact ⟨number, number'⟩
  · intro numbers
    constructor
    · intro bound declared
      obtain ⟨number, number'⟩ := numbers bound (.inl declared)
      exact (Extended.atMost_iff _ _).mpr ⟨number', number, least bound declared⟩
    · intro bound declared
      obtain ⟨number, number'⟩ := numbers bound (.inr declared)
      exact (Extended.atMost_iff _ _).mpr ⟨number, number', greatest bound declared⟩

/-- What is accepted for a parameter of numbers consists of texts of numbers.  Each of these keeps to the bounds that
are declared just when neither it nor a bound is the result of an undefined operation. -/
theorem bounds_iff_of_validate (numeric : p.type.isNumeric) (accepted : p.validate name text = .ok value) :
  ∀ item ∈ value.items, ∃ written x, item = .string written ∧ Extended.ofText? written.toList = some x
    ∧ (p.Bounds x ↔ ∀ bound, p.minValue = some bound ∨ p.maxValue = some bound → x ≠ .nan ∧ bound ≠ .nan)
  := by
  intro item member
  rw [items_of_validate accepted] at member
  obtain ⟨written, checked, rfl⟩ := List.mem_map.mp member
  obtain ⟨faultless, -⟩ := fault?_eq_none.mp ((validate_eq_ok.mp accepted).1 written checked)
  rw [if_pos numeric] at faultless
  obtain ⟨x, reads, least, greatest⟩ := boundFault?_eq_none.mp faultless
  exact ⟨written, x, rfl, reads, bounds_iff least greatest⟩

/-- A parameter of one or more numbers from one to ten. -/
def upToTen (type : ParameterType) : Parameter :=
  { type, minValue := some (.ofInt 1), maxValue := some (.ofInt 10) }

theorem validate_upToTen :
  (upToTen .numberList).validate "Sizes" "3, nan" = .ok (.strings ["3", "nan"])
  := by
  have texts : (upToTen .numberList).textsOf "3, nan" = ["3", "nan"] := by decide +kernel
  rw [validate_eq_ok, texts, List.forall_mem_cons, List.forall_mem_singleton]
  exact ⟨⟨rfl, rfl⟩, rfl⟩

/-- Of two numbers that are accepted within the bounds, the one keeps to them and the other does not. -/
theorem bounds_upToTen :
  (upToTen .numberList).type.isNumeric
    ∧ (upToTen .numberList).validate "Sizes" "3, nan" = .ok (.strings ["3", "nan"])
    ∧ ∀ item ∈ (Json.strings ["3", "nan"]).items, ∃ written x,
      item = .string written ∧ Extended.ofText? written.toList = some x
        ∧ ((upToTen .numberList).Bounds x
          ↔ ∀ bound, (upToTen .numberList).minValue = some bound ∨ (upToTen .numberList).maxValue = some bound
            → x ≠ .nan ∧ bound ≠ .nan)
  := ⟨rfl, validate_upToTen, bounds_iff_of_validate rfl validate_upToTen⟩

/-- What is no number is accepted where numbers from one to ten are asked for, and does not keep to these bounds. -/
theorem not_bounds_nan :
  ¬ ∀ (p : Parameter) (name text : String) (value : Json),
    p.type.isNumeric → p.validate name text = .ok value
      → ∀ item ∈ value.items, ∃ written x,
        item = .string written ∧ Extended.ofText? written.toList = some x ∧ p.Bounds x
  := by
  intro within
  have accepted : (upToTen .number).validate "Size" "NaN" = .ok (.string "NaN") := rfl
  obtain ⟨written, x, same, reads, bounds⟩ := within _ _ _ _ rfl accepted (.string "NaN") List.mem_cons_self
  cases same
  cases (rfl : Extended.ofText? "NaN".toList = some .nan).symm.trans reads
  exact ((Extended.atMost_iff _ _).mp (bounds.least _ rfl)).2.1 rfl

end Parameter

end Reconcile
