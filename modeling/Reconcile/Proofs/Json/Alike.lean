import Mathlib.Data.List.Perm.Basic
import Mathlib.Tactic.Common
import Reconcile.Patch
import Reconcile.Proofs.Json.Distinct

/-!
# Values that are alike

Two values are alike when they are equal up to the order of the fields of objects.  Which numbers
count as equal is left open: they may be compared by their values or by their written forms.  For
values without repeated names, the equality that is computed is this relation, and the difference of
values that are alike is empty.
-/

namespace Reconcile

theorem forall₂_iff_getElem? {α β : Type} {R : α → β → Prop} {xs : List α} {ys : List β} :
  List.Forall₂ R xs ys
    ↔ xs.length = ys.length ∧ ∀ (i : Nat) (x : α) (y : β), xs[i]? = some x → ys[i]? = some y → R x y
  := by
  rw [List.forall₂_iff_get]
  apply and_congr_right
  intro _
  constructor
  · intro related i x y hx hy
    obtain ⟨hi, rfl⟩ := List.getElem?_eq_some_iff.mp hx
    obtain ⟨hi', rfl⟩ := List.getElem?_eq_some_iff.mp hy
    exact related i hi hi'
  · intro related i hi hi'
    exact related i _ _ (List.getElem?_eq_getElem hi) (List.getElem?_eq_getElem hi')

theorem isSome_iff_of_rel {α β : Type} {R : α → β → Prop} {x : Option α} {y : Option β} (h : Option.Rel R x y) :
  x.isSome ↔ y.isSome
  := by
  cases h <;> rfl

theorem exists_lookup_of_perm {α β : Type} {entries : List (String × α)} {entries' : List (String × β)}
    (names : (entries.map (·.1)).Perm (entries'.map (·.1))) {entry : String × α} (h : entry ∈ entries) :
  ∃ value', lookup entry.1 entries' = some value'
  := by
  rw [← Option.isSome_iff_exists, lookup_isSome_iff]
  apply names.mem_iff.mp (List.mem_map_of_mem h)

namespace Json

/-- Two values are equal up to the order of the fields of objects, with numbers compared by `same`. -/
inductive Alike (same : Number → Number → Prop) : Json → Json → Prop where
  | null : Alike same .null .null
  | bool (b : Bool) : Alike same (.bool b) (.bool b)
  | number {m n : Number} (h : same m n) : Alike same (.number m) (.number n)
  | string (s : String) : Alike same (.string s) (.string s)
  | list {items items' : List Json} (length_eq : items.length = items'.length)
      (items_alike : ∀ (i : Nat) (item item' : Json), items[i]? = some item → items'[i]? = some item' →
        Alike same item item') :
      Alike same (.list items) (.list items')
  | object {fields fields' : List (String × Json)} (names : (fields.map (·.1)).Perm (fields'.map (·.1)))
      (values_alike : ∀ (name : String) (value value' : Json), lookup name fields = some value →
        lookup name fields' = some value' → Alike same value value') :
      Alike same (.object fields) (.object fields')

section

variable {same : Number → Number → Prop}

theorem alike_list_iff {items items' : List Json} :
  Alike same (.list items) (.list items') ↔ List.Forall₂ (Alike same) items items'
  := by
  rw [forall₂_iff_getElem?]
  constructor
  · intro alike
    cases alike with
    | list length_eq items_alike => exact ⟨length_eq, items_alike⟩
  · rintro ⟨length_eq, items_alike⟩
    exact .list length_eq items_alike

/-- Objects are alike when every name has values in both that are alike, or in none of them a value. -/
theorem alike_object_iff {fields fields' : List (String × Json)} (nodup : (fields.map (·.1)).Nodup)
    (nodup' : (fields'.map (·.1)).Nodup) :
  Alike same (.object fields) (.object fields')
    ↔ ∀ name, Option.Rel (Alike same) (lookup name fields) (lookup name fields')
  := by
  have present (name : String) := lookup_isSome_iff name fields
  have present' (name : String) := lookup_isSome_iff name fields'
  constructor
  · intro alike name
    cases alike with
    | object names values_alike =>
      have both := (present name).trans (names.mem_iff.trans (present' name).symm)
      cases hv : lookup name fields with
      | none =>
        cases hv' : lookup name fields' with
        | none => exact .none
        | some value' => simp [hv, hv'] at both
      | some value =>
        cases hv' : lookup name fields' with
        | none => simp [hv, hv'] at both
        | some value' => exact .some (values_alike name value value' hv hv')
  · intro related
    apply Alike.object
    · rw [List.perm_ext_iff_of_nodup nodup nodup']
      intro name
      rw [← present, ← present']
      apply isSome_iff_of_rel (related name)
    · intro name value value' hv hv'
      have here := related name
      rw [hv, hv'] at here
      cases here with
      | some alike => exact alike

theorem Distinct.alike_self {value : Json} (distinct : value.Distinct) (refl : ∀ n, same n n) :
  Alike same value value
  := by
  induction distinct with
  | null => exact .null
  | bool b => exact .bool b
  | number n => exact .number (refl n)
  | string s => exact .string s
  | list _ ih =>
    apply Alike.list rfl
    intro i item item' hi hi'
    obtain rfl := Option.some.inj (hi.symm.trans hi')
    exact ih item (List.mem_of_getElem? hi)
  | object _ _ ih =>
    apply Alike.object (List.Perm.refl _)
    intro name value value' hv hv'
    obtain rfl := Option.some.inj (hv.symm.trans hv')
    exact ih _ (mem_of_lookup hv)

end

/-! ### The equality that is computed -/

theorem sameItems_iff {items items' : List Json} :
  sameItems items items' ↔ List.Forall₂ (fun item item' => item.same item') items items'
  := by
  induction items generalizing items' with
  | nil => cases items' <;> simp [sameItems]
  | cons item rest ih => cases items' <;> simp [sameItems, ih]

theorem sameFields_iff {fields fields' : List (String × Json)} :
  sameFields fields fields'
    ↔ ∀ field ∈ fields, ∃ value', lookup field.1 fields' = some value' ∧ field.2.same value'
  := by
  induction fields with
  | nil => simp [sameFields]
  | cons field rest ih =>
    obtain ⟨key, value⟩ := field
    rw [sameFields, Bool.and_eq_true, ih, List.forall_mem_cons]
    apply and_congr_left'
    cases lookup key fields' <;> simp

theorem Distinct.alike_of_same {old new : Json} (distinct : old.Distinct) (distinct' : new.Distinct)
    (h : old.same new) :
  Alike (fun m n => m.same n) old new
  := by
  induction distinct generalizing new with
  | null =>
    cases new with
    | null => exact .null
    | _ => simp [same] at h
  | bool b =>
    cases new with
    | bool b' =>
      obtain rfl : b = b' := by simpa [same] using h
      exact .bool b
    | _ => simp [same] at h
  | number m =>
    cases new with
    | number n => exact .number (by simpa [same] using h)
    | _ => simp [same] at h
  | string s =>
    cases new with
    | string s' =>
      obtain rfl : s = s' := by simpa [same] using h
      exact .string s
    | _ => simp [same] at h
  | @list items _ ih =>
    cases distinct' with
    | @list items' items_distinct' =>
      rw [same, sameItems_iff, forall₂_iff_getElem?] at h
      apply Alike.list h.1
      intro i item item' hi hi'
      have distinct' := items_distinct' item' (List.mem_of_getElem? hi')
      exact ih item (List.mem_of_getElem? hi) distinct' (h.2 i item item' hi hi')
    | _ => simp [same] at h
  | @object fields nodup _ ih =>
    cases distinct' with
    | @object fields' nodup' fields_distinct' =>
      rw [same, Bool.and_eq_true, beq_iff_eq, sameFields_iff] at h
      obtain ⟨length_eq, values_same⟩ := h
      apply Alike.object
      · have within : fields.map (·.1) ⊆ fields'.map (·.1) := by
          intro name hn
          obtain ⟨field, hf, rfl⟩ := List.mem_map.mp hn
          obtain ⟨value', hv', -⟩ := values_same field hf
          exact List.mem_map.mpr ⟨_, mem_of_lookup hv', rfl⟩
        apply (List.subperm_of_subset nodup within).perm_of_length_le
        simp [length_eq]
      · intro name value value' hv hv'
        have mem := mem_of_lookup hv
        obtain ⟨other, ho, values⟩ := values_same _ mem
        obtain rfl := Option.some.inj (hv'.symm.trans ho)
        exact ih _ mem (fields_distinct' _ (mem_of_lookup hv')) values
    | _ => simp [same] at h

theorem Alike.same_of_distinct {old new : Json} (alike : Alike (fun m n => m.same n) old new)
    (distinct : old.Distinct) :
  old.same new
  := by
  induction alike with
  | null => simp [same]
  | bool b => simp [same]
  | number h => simpa [same] using h
  | string s => simp [same]
  | list length_eq _ ih =>
    cases distinct with
    | list items_distinct =>
      rw [same, sameItems_iff, forall₂_iff_getElem?]
      refine ⟨length_eq, fun i item item' hi hi' => ?_⟩
      exact ih i item item' hi hi' (items_distinct item (List.mem_of_getElem? hi))
  | @object fields fields' names _ ih =>
    cases distinct with
    | object nodup fields_distinct =>
      rw [same, Bool.and_eq_true, beq_iff_eq, sameFields_iff]
      refine ⟨by simpa using names.length_eq, fun field hf => ?_⟩
      obtain ⟨value', hv'⟩ := exists_lookup_of_perm names hf
      exact ⟨value', hv', ih field.1 field.2 value' (lookup_of_mem nodup hf) hv' (fields_distinct field hf)⟩

/-- Values without repeated names are equal as far as the program can tell when they are alike. -/
theorem Distinct.same_iff_alike {old new : Json} (distinct : old.Distinct) (distinct' : new.Distinct) :
  old.same new ↔ Alike (fun m n => m.same n) old new
  := ⟨distinct.alike_of_same distinct', fun alike => alike.same_of_distinct distinct⟩

/-! ### The difference of values that are alike -/

theorem diffItems_eq_nil (path : List String) (index : Nat) {items items' : List Json}
    (alike : List.Forall₂ (fun item item' => ∀ path, diffAt path item item' = []) items items') :
  diffItems path index items items' = []
  := by
  induction alike generalizing index with
  | nil => simp [diffItems, addedItems]
  | cons head _ ih => rw [diffItems, head, List.nil_append, ih]

theorem diffFields_eq_nil (path : List String) {rest fields' : List (String × Json)}
    (alike : ∀ field ∈ rest, ∃ value', lookup field.1 fields' = some value' ∧ ∀ path, diffAt path field.2 value' = []) :
  diffFields path rest fields' = []
  := by
  induction rest with
  | nil => rw [diffFields]
  | cons field rest ih =>
    obtain ⟨key, value⟩ := field
    rw [List.forall_mem_cons] at alike
    obtain ⟨⟨value', hv', here⟩, alike⟩ := alike
    rw [diffFields, hv']
    dsimp only
    rw [here, List.nil_append, ih alike]

theorem addedFields_eq_nil (path : List String) {fields fields' : List (String × Json)}
    (within : ∀ field ∈ fields', field.1 ∈ fields.map (·.1)) :
  addedFields path fields fields' = []
  := by
  unfold addedFields
  rw [List.map_eq_nil_iff, List.filter_eq_nil_iff]
  intro field hf missing
  have present := (lookup_isSome_iff field.1 fields).mpr (within field hf)
  rw [Option.isNone_iff_eq_none.mp missing] at present
  cases present

theorem Alike.diffAt_eq_nil {old new : Json} (alike : Alike (fun m n => m.same n) old new) (distinct : old.Distinct)
    (path : List String) :
  diffAt path old new = []
  := by
  induction alike generalizing path with
  | null => simp [diffAt, same]
  | bool b => simp [diffAt, same]
  | number h => simp [diffAt, same, h]
  | string s => simp [diffAt, same]
  | list length_eq _ ih =>
    cases distinct with
    | list items_distinct =>
      rw [diffAt]
      apply diffItems_eq_nil
      rw [forall₂_iff_getElem?]
      refine ⟨length_eq, fun i item item' hi hi' => ?_⟩
      exact ih i item item' hi hi' (items_distinct item (List.mem_of_getElem? hi))
  | @object fields fields' names _ ih =>
    cases distinct with
    | object nodup fields_distinct =>
      rw [diffAt, diffFields_eq_nil, addedFields_eq_nil, List.nil_append]
      · intro field hf
        exact names.mem_iff.mpr (List.mem_map_of_mem hf)
      · intro field hf
        obtain ⟨value', hv'⟩ := exists_lookup_of_perm names hf
        exact ⟨value', hv', ih field.1 field.2 value' (lookup_of_mem nodup hf) hv' (fields_distinct field hf)⟩

/-- A value does not differ from itself. -/
theorem Distinct.diff_self {value : Json} (distinct : value.Distinct) :
  value.diff value = []
  := (distinct.alike_self Number.same_self).diffAt_eq_nil distinct []

end Json

end Reconcile
