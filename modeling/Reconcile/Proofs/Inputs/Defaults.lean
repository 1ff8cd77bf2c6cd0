import Mathlib
import Reconcile.Proofs.Expression.Placeholders
import Reconcile.Proofs.Inputs.Bounds
import Reconcile.Proofs.Outcome

/-!
# Defaults of lists

The default of a parameter is turned into a text, and the text is read as a supplied one is: the elements of a list
are joined by commas, and what they say is then found between the commas.  An element with a comma in it becomes
several items, the white space around an item is lost, and a list of nothing but an empty text has no items at all.
All other lists come back as they are.
-/

namespace Reconcile

theorem Json.strings_inj {texts others : List String} :
  Json.strings texts = Json.strings others ↔ texts = others
  := by
  have apart : Function.Injective Json.string := fun _ _ same => Json.string.inj same
  rw [Json.strings, Json.strings, Json.list.injEq, (List.map_injective_iff.mpr apart).eq_iff]

namespace Text

variable {c : Char} {text : List Char}

/-! ### The parts of a text -/

/-- The parts of texts that are joined by a character are those of each of them. -/
theorem splitOn_intercalate {texts : List (List Char)} (nonempty : texts ≠ []) :
  ([c].intercalate texts).splitOn c = texts.flatMap (List.splitOn c)
  := by
  induction texts with
  | nil => contradiction
  | cons text texts ih =>
    cases texts with
    | nil => simp
    | cons next texts =>
      rw [List.intercalate_cons_cons, List.append_assoc, List.singleton_append, splitOn_append_cons,
        ih (List.cons_ne_nil _ _)]
      rfl

/-- A text is alone among its parts when the character is not in it. -/
theorem splitOn_eq_singleton_iff :
  text.splitOn c = [text] ↔ c ∉ text
  := by
  constructor
  · intro alone occurs
    obtain ⟨before, after, rfl⟩ := List.append_of_mem occurs
    have parts := congrArg List.length alone
    rw [splitOn_append_cons, List.length_append, List.length_singleton] at parts
    have first := List.length_pos_iff.mpr (List.splitOn_ne_nil c before)
    have second := List.length_pos_iff.mpr (List.splitOn_ne_nil c after)
    omega
  · intro absent
    exact List.splitOn_eq_singleton absent

/-- Nothing is left of a text that is all white space. -/
theorem trim_eq_nil :
  trim text = [] ↔ ∀ c ∈ text, isBlank c
  := by
  rw [trim_eq, List.rdropWhile_eq_nil_iff]
  constructor
  · intro blank
    rw [← List.dropWhile_eq_nil_iff, List.dropWhile_idempotent] at blank
    exact List.dropWhile_eq_nil_iff.mp blank
  · intro blank c member
    exact blank c ((List.dropWhile_sublist isBlank).subset member)

end Text

namespace Parameter

open Text (IsStripped)

/-! ### The items of a joined list -/

/-- What stands between the commas of a text, without the white space around it. -/
def fields (text : String) : List String := (Text.split "," text).map Text.strip

/-- The items of the joined texts of a list: those of an only text, and the fields of several texts in turn. -/
def itemsOfAll : List String → List String
  | [text] => itemsOf text
  | texts => texts.flatMap fields

theorem fields_eq (text : String) :
  fields text = (text.toList.splitOn ',').map fun part => Text.strip (String.ofList part)
  := by
  rw [fields, Text.split, List.map_map]
  exact congrArg _ (Text.splitOn_singleton ',' text.toList)

theorem fields_ne_nil (text : String) :
  fields text ≠ []
  := by
  rw [fields_eq, ne_eq, List.map_eq_nil_iff]
  apply List.splitOn_ne_nil

theorem fields_intercalate {texts : List String} (nonempty : texts ≠ []) :
  fields (String.intercalate "," texts) = texts.flatMap fields
  := by
  have lists : texts.map String.toList ≠ [] := by simpa using nonempty
  rw [fields_eq, String.toList_intercalate]
  change List.map _ (List.splitOn ',' ([','].intercalate _)) = _
  rw [Text.splitOn_intercalate lists, List.flatMap_map, List.map_flatMap]
  congr 1
  funext text
  exact (fields_eq text).symm

/-- A text is its own only field when it has no comma and no white space at its ends. -/
theorem fields_eq_singleton_iff {text : String} :
  fields text = [text] ↔ ',' ∉ text.toList ∧ IsStripped text
  := by
  rw [fields_eq]
  constructor
  · intro alone
    obtain ⟨part, only, stripped⟩ := List.map_eq_singleton_iff.mp alone
    have whole : part = text.toList := by
      have joined : [','].intercalate (text.toList.splitOn ',') = text.toList := List.intercalate_splitOn ','
      rwa [only, List.intercalate_singleton] at joined
    subst whole
    rw [String.ofList_toList] at stripped
    exact ⟨Text.splitOn_eq_singleton_iff.mp only, stripped⟩
  · rintro ⟨absent, stripped⟩
    rw [List.splitOn_eq_singleton absent, List.map_singleton, String.ofList_toList, stripped]

/-- Joined texts are read as the items of all of them. -/
theorem itemsOf_intercalate (texts : List String) :
  itemsOf (String.intercalate "," texts) = itemsOfAll texts
  := by
  cases texts with
  | nil => decide +kernel
  | cons text texts =>
    cases texts with
    | nil => simp [itemsOfAll]
    | cons next texts =>
      have comma : ',' ∈ (String.intercalate "," (text :: next :: texts)).toList := by
        simp [String.toList_intercalate]
      have visible : ¬ (Text.trim (String.intercalate "," (text :: next :: texts)).toList).isEmpty := by
        rw [List.isEmpty_iff, Text.trim_eq_nil]
        intro blank
        exact absurd (blank _ comma) (by decide)
      rw [itemsOf, if_neg visible]
      exact fields_intercalate (List.cons_ne_nil _ _)

/-- Every text has a field. -/
theorem length_le_flatMap_fields (texts : List String) :
  texts.length ≤ (texts.flatMap fields).length
  := by
  induction texts with
  | nil => exact Nat.le_refl _
  | cons text texts ih =>
    have := List.length_pos_iff.mpr (fields_ne_nil text)
    rw [List.flatMap_cons, List.length_append, List.length_cons]
    omega

theorem flatMap_fields_eq_self_iff {texts : List String} :
  texts.flatMap fields = texts ↔ ∀ text ∈ texts, fields text = [text]
  := by
  induction texts with
  | nil => simp
  | cons text texts ih =>
    rw [List.flatMap_cons, List.forall_mem_cons, ← ih]
    constructor
    · intro same
      obtain ⟨field, others, hf⟩ := List.exists_cons_of_ne_nil (fields_ne_nil text)
      rw [hf, List.cons_append, List.cons.injEq] at same
      obtain ⟨rfl, rest⟩ := same
      -- There is a field for every other text, so that the first text has no more than one.
      have none : others = [] := by
        have sizes := congrArg List.length rest
        have := length_le_flatMap_fields texts
        rw [List.length_append] at sizes
        exact List.length_eq_zero_iff.mp (by omega)
      subst none
      exact ⟨hf, rest⟩
    · rintro ⟨alone, rest⟩
      rw [alone, rest]
      rfl

/-- The texts of a list come back just when they have no commas, no white space at their ends, and are not just one
empty text. -/
theorem itemsOfAll_eq_self_iff {texts : List String} :
  itemsOfAll texts = texts ↔ (∀ text ∈ texts, ',' ∉ text.toList ∧ IsStripped text) ∧ texts ≠ [""]
  := by
  have several : texts.flatMap fields = texts ↔ ∀ text ∈ texts, ',' ∉ text.toList ∧ IsStripped text := by
    rw [flatMap_fields_eq_self_iff]
    simp only [fields_eq_singleton_iff]
  match texts with
  | [] => simp [itemsOfAll]
  | text :: next :: texts =>
    rw [← several]
    simp [itemsOfAll]
  | [text] =>
    rw [← several, itemsOfAll, itemsOf, List.flatMap_singleton]
    split
    · next blank =>
      constructor
      · rintro ⟨⟩
      · rintro ⟨alone, nonempty⟩
        have stripped := (fields_eq_singleton_iff.mp alone).2
        rw [List.isEmpty_iff] at blank
        rw [IsStripped, Text.strip, blank] at stripped
        exact absurd (congrArg (fun text => [text]) stripped.symm) nonempty
    · next visible =>
      constructor
      · intro alone
        refine ⟨alone, ?_⟩
        rintro ⟨⟩
        exact visible (by decide)
      · rintro ⟨alone, -⟩
        exact alone

end Parameter

namespace ParameterValues

open Text (IsStripped)

variable {declared : Table Parameter} {supplied : Table String} {values : ParameterValues} {name : String}
  {p : Parameter} {elements : List Json}

/-! ### The values of declared parameters -/

/-- What the check of one parameter adds. -/
def addNext (supplied : Table String) (values : ParameterValues) (entry : String × Parameter) :
    Except StackError ParameterValues := do
  let text ← textFor supplied entry.1 entry.2
  let value ← entry.2.validate entry.1 text
  return values.add entry.1 entry.2 value

theorem addNext_eq_ok {before after : ParameterValues} {entry : String × Parameter} :
  addNext supplied before entry = .ok after
    ↔ ∃ text value, textFor supplied entry.1 entry.2 = .ok text ∧ entry.2.validate entry.1 text = .ok value
      ∧ before.add entry.1 entry.2 value = after
  := by
  simp only [addNext, Except.bind_eq_ok]
  constructor
  · rintro ⟨text, taken, value, valid, ⟨⟩⟩
    exact ⟨text, value, taken, valid, rfl⟩
  · rintro ⟨text, value, taken, valid, rfl⟩
    exact ⟨text, taken, value, valid, rfl⟩

/-- The checks of some parameters leave the values of others and record those of each. -/
theorem get?_foldlM_addNext {entries : List (String × Parameter)} {before after : ParameterValues}
    (nodup : (entries.map (·.1)).Nodup) (checked : entries.foldlM (addNext supplied) before = .ok after) :
  (∀ name ∉ entries.map (·.1), after.values.get? name = before.values.get? name)
    ∧ ∀ entry ∈ entries, ∃ text value,
      textFor supplied entry.1 entry.2 = .ok text ∧ entry.2.validate entry.1 text = .ok value
        ∧ after.values.get? entry.1 = some value
  := by
  induction entries generalizing before with
  | nil =>
    cases checked
    exact ⟨fun _ _ => rfl, fun _ member => absurd member List.not_mem_nil⟩
  | cons entry rest ih =>
    rw [List.foldlM_cons] at checked
    obtain ⟨between, first, others⟩ := Except.bind_eq_ok.mp checked
    obtain ⟨text, value, taken, valid, rfl⟩ := addNext_eq_ok.mp first
    rw [List.map_cons, List.nodup_cons] at nodup
    obtain ⟨kept, recorded⟩ := ih nodup.2 others
    constructor
    · intro name outside
      rw [List.map_cons, List.mem_cons, not_or] at outside
      rw [kept name outside.2, add, Table.get?_insert, if_neg outside.1]
    · rw [List.forall_mem_cons]
      refine ⟨⟨text, value, taken, valid, ?_⟩, recorded⟩
      rw [kept _ nodup.1, add, Table.get?_insert, if_pos rfl]

/-- Every declared parameter has the value that its text is accepted as. -/
theorem get?_validate (accepted : validate declared supplied = .ok values) (declares : declared.get? name = some p) :
  ∃ text value, textFor supplied name p = .ok text ∧ p.validate name text = .ok value
    ∧ values.values.get? name = some value
  := by
  unfold validate at accepted
  split at accepted
  · cases accepted
  · exact (get?_foldlM_addNext declared.nodup accepted).2 _ ((Table.get?_eq_some_iff _ _ _).mp declares)

/-- A list that a parameter has for its default is read from its joined texts. -/
theorem get?_validate_list (declares : declared.get? name = some p) (several : p.type.isList)
    (usual : p.default = some (.list elements)) (missing : supplied.get? name = none)
    (accepted : validate declared supplied = .ok values) :
  values.values.get? name = some (.strings (Parameter.itemsOfAll (elements.map Json.plainText)))
  := by
  obtain ⟨text, value, taken, valid, recorded⟩ := get?_validate accepted declares
  rw [textFor, missing, usual] at taken
  cases taken
  obtain ⟨-, rfl⟩ := Parameter.validate_eq_ok.mp valid
  rw [recorded, if_pos several, Parameter.textsOf, if_pos several, Json.defaultText, Parameter.itemsOf_intercalate]

/-- A parameter without a supplied value takes a list that it has for its default from the joined texts of the
elements.  It has the texts themselves just when none has a comma in it or white space at its ends, and they are not
just one empty text. -/
theorem get?_validate_default (declares : declared.get? name = some p) (several : p.type.isList)
    (usual : p.default = some (.list elements)) (missing : supplied.get? name = none)
    (accepted : validate declared supplied = .ok values) :
  values.values.get? name = some (.strings (Parameter.itemsOfAll (elements.map Json.plainText)))
    ∧ (values.values.get? name = some (.strings (elements.map Json.plainText))
      ↔ (∀ text ∈ elements.map Json.plainText, ',' ∉ text.toList ∧ IsStripped text)
        ∧ elements.map Json.plainText ≠ [""])
  := by
  have recorded := get?_validate_list declares several usual missing accepted
  constructor
  · exact recorded
  · rw [recorded, ← Parameter.itemsOfAll_eq_self_iff, Option.some.injEq, Json.strings_inj]

/-- A parameter whose default is a list of texts. -/
def listed (texts : List String) : Parameter :=
  { type := .commaDelimitedList, default := some (.strings texts) }

/-- The parameters of a template that has no other. -/
def listing (texts : List String) : Table Parameter := .ofList [("Names", listed texts)]

theorem exists_validate_listing (texts : List String) :
  ∃ values, validate (listing texts) .empty = .ok values
  := by
  have valid : (listed texts).validate "Names" (Json.strings texts).defaultText =
      .ok (.strings (Parameter.itemsOf (Json.strings texts).defaultText)) := by
    apply Parameter.validate_eq_ok.mpr
    exact ⟨fun _ _ => rfl, rfl⟩
  obtain ⟨values, next⟩ : ∃ values, addNext .empty {} ("Names", listed texts) = .ok values :=
    ⟨_, addNext_eq_ok.mpr ⟨_, _, rfl, valid, rfl⟩⟩
  exact ⟨values, Except.bind_eq_ok.mpr ⟨values, next, rfl⟩⟩

/-- Two names are the value of a parameter that has them for its default. -/
theorem exists_get?_listing :
  ∃ values, validate (listing ["a", "b"]) .empty = .ok values
    ∧ values.values.get? "Names" = some (.strings (Parameter.itemsOfAll ["a", "b"]))
    ∧ (values.values.get? "Names" = some (.strings ["a", "b"])
      ↔ (∀ text ∈ ["a", "b"], ',' ∉ text.toList ∧ IsStripped text) ∧ ["a", "b"] ≠ [""])
  := by
  obtain ⟨values, accepted⟩ := exists_validate_listing ["a", "b"]
  have declares : (listing ["a", "b"]).get? "Names" = some (listed ["a", "b"]) := rfl
  exact ⟨values, accepted, get?_validate_default declares rfl rfl rfl accepted⟩

/-- A default need not come back, as a name with a comma in it becomes two items. -/
theorem not_get?_listing :
  ¬ ∀ (declared : Table Parameter) (supplied : Table String) (values : ParameterValues) (name : String)
    (p : Parameter) (elements : List Json),
    declared.get? name = some p → p.type.isList → p.default = some (.list elements) → supplied.get? name = none
      → validate declared supplied = .ok values
      → values.values.get? name = some (.strings (elements.map Json.plainText))
  := by
  intro kept
  obtain ⟨values, accepted⟩ := exists_validate_listing ["a,b", "c"]
  have declares : (listing ["a,b", "c"]).get? "Names" = some (listed ["a,b", "c"]) := rfl
  have recorded := get?_validate_list declares rfl rfl rfl accepted
  rw [kept _ _ _ _ _ _ declares rfl rfl rfl accepted, Option.some.injEq, Json.strings_inj] at recorded
  exact absurd recorded (by decide +kernel)

end ParameterValues

end Reconcile
