import Mathlib.Data.List.Permutation
import Mathlib.Tactic.Common
import Reconcile.Expression.Fingerprint
import Reconcile.Proofs.Json.Alike
import Reconcile.Proofs.Json.Written

/-!
# Canonical forms

Two values without repeated names have the same canonical form just when they are alike, numbers
compared by their written forms.  So the fingerprint of properties does not depend on the order of
fields, and different properties have different fingerprints unless the hash takes their canonical forms
for each other.
-/

namespace Reconcile

/-! ### Sorted entries -/

section

variable {α : Type}

/-- Entries sorted by name. -/
def sortEntries (entries : List (String × α)) : List (String × α) :=
  entries.mergeSort fun left right => decide (left.1 ≤ right.1)

theorem perm_iff_lookup {entries entries' : List (String × α)} (nodup : (entries.map (·.1)).Nodup)
    (nodup' : (entries'.map (·.1)).Nodup) :
  entries.Perm entries' ↔ ∀ name, lookup name entries = lookup name entries'
  := by
  rw [List.perm_ext_iff_of_nodup (.of_map _ nodup) (.of_map _ nodup')]
  constructor
  · intro same name
    apply Option.ext
    intro value
    have here := same (name, value)
    exact ⟨fun h => lookup_of_mem nodup' (here.mp (mem_of_lookup h)),
      fun h => lookup_of_mem nodup (here.mpr (mem_of_lookup h))⟩
  · rintro same ⟨name, value⟩
    have here := same name
    exact ⟨fun h => mem_of_lookup (here.symm.trans (lookup_of_mem nodup h)),
      fun h => mem_of_lookup (here.trans (lookup_of_mem nodup' h))⟩

/-- Entries with different names are sorted in one way only. -/
theorem sortEntries_eq_iff {entries entries' : List (String × α)} (nodup : (entries.map (·.1)).Nodup) :
  sortEntries entries = sortEntries entries' ↔ entries.Perm entries'
  := by
  constructor
  · intro same
    calc
      entries.Perm (sortEntries entries) := (List.mergeSort_perm _ _).symm
      (sortEntries entries).Perm (sortEntries entries') := by rw [same]
      (sortEntries entries').Perm entries' := List.mergeSort_perm _ _
  · intro perm
    have sorted (entries : List (String × α)) :
        (sortEntries entries).Pairwise fun left right => decide (left.1 ≤ right.1) := by
      apply List.pairwise_mergeSort
      · intro a b c ab bc
        simp only [decide_eq_true_eq] at ab bc ⊢
        exact String.le_trans ab bc
      · intro a b
        simpa using String.le_total a.1 b.1
    have reorder := ((List.mergeSort_perm entries fun left right => decide (left.1 ≤ right.1)).trans perm).trans
      (List.mergeSort_perm entries' fun left right => decide (left.1 ≤ right.1)).symm
    apply List.Perm.eq_of_pairwise _ (sorted entries) (sorted entries') reorder
    intro a b ha hb ab ba
    simp only [decide_eq_true_eq] at ab ba
    have ha' := (List.mergeSort_perm _ _).mem_iff.mp ha
    have hb' := perm.mem_iff.mpr ((List.mergeSort_perm _ _).mem_iff.mp hb)
    exact List.inj_on_of_nodup_map nodup ha' hb' (String.le_antisymm ab ba)

end

/-! ### Comparing part by part -/

theorem map_eq_map_iff_forall₂ {α β γ : Type} {f : α → γ} {g : β → γ} {R : α → β → Prop} {xs : List α} {ys : List β}
    (h : ∀ x ∈ xs, ∀ y ∈ ys, f x = g y ↔ R x y) :
  xs.map f = ys.map g ↔ List.Forall₂ R xs ys
  := by
  induction xs generalizing ys with
  | nil => cases ys <;> simp
  | cons x xs ih =>
    cases ys with
    | nil => simp
    | cons y ys =>
      rw [List.map_cons, List.map_cons, List.cons.injEq, List.forall₂_cons, h x List.mem_cons_self y List.mem_cons_self,
        ih fun x hx y hy => h x (List.mem_cons_of_mem _ hx) y (List.mem_cons_of_mem _ hy)]

theorem map_eq_map_iff_rel {α β γ : Type} {f : α → γ} {g : β → γ} {R : α → β → Prop} {x : Option α} {y : Option β}
    (h : ∀ a, x = some a → ∀ b, y = some b → (f a = g b ↔ R a b)) :
  x.map f = y.map g ↔ Option.Rel R x y
  := by
  cases x with
  | none =>
    cases y with
    | none => exact iff_of_true rfl .none
    | some b => constructor <;> intro equal <;> cases equal
  | some a =>
    cases y with
    | none => constructor <;> intro equal <;> cases equal
    | some b =>
      rw [Option.map_some, Option.map_some, Option.some.injEq, h a rfl b rfl]
      constructor
      · exact .some
      · intro related
        cases related with
        | some related => exact related

namespace Json

/-! ### Canonical forms -/

theorem sortedItems_eq (items : List Json) :
  sortedItems items = items.map sorted
  := by
  induction items with
  | nil => rfl
  | cons item rest ih => rw [sortedItems, ih, List.map_cons]

theorem sortedFields_eq (fields : List (String × Json)) :
  sortedFields fields = fields.map fun field => (field.1, field.2.sorted)
  := by
  induction fields with
  | nil => rfl
  | cons field rest ih => rw [sortedFields, ih, List.map_cons]

/-- The names of fields with the canonical forms of their values. -/
def canonicalForms (fields : List (String × Json)) : List (String × List Char) :=
  fields.map fun field => (field.1, field.2.sorted.written)

/-- The fields are sorted by name and written in that order. -/
theorem fieldForms_sortFields (fields : List (String × Json)) :
  fieldForms (sortFields (sortedFields fields)) = sortEntries (canonicalForms fields)
  := by
  unfold fieldForms sortFields sortEntries canonicalForms
  rw [List.map_mergeSort (s := fun left right : String × List Char => decide (left.1 ≤ right.1)) (fun _ _ _ _ => rfl),
    sortedFields_eq, List.map_map]
  rfl

theorem names_canonicalForms (fields : List (String × Json)) :
  (canonicalForms fields).map (·.1) = fields.map (·.1)
  := by
  simp [canonicalForms]

theorem lookup_canonicalForms (name : String) (fields : List (String × Json)) :
  lookup name (canonicalForms fields) = (lookup name fields).map fun value => value.sorted.written
  := lookup_map (fun value : Json => value.sorted.written) name fields

theorem typeName_sorted (value : Json) :
  value.sorted.typeName = value.typeName
  := by
  cases value <;> rfl

theorem Alike.typeName_eq {same : Number → Number → Prop} {old new : Json} (alike : old.Alike same new) :
  old.typeName = new.typeName
  := by
  cases alike <;> rfl

theorem written_list_iff {items items' : List Json} :
  (list items).written = (list items').written ↔ items.map written = items'.map written
  := by
  constructor
  · intro equal
    exact (items_eq_of_append (fun item _ => item.prefixFree_written) (congrArg (· ++ []) equal)).1
  · intro equal
    rw [written, written, writtenItems_eq, writtenItems_eq, equal]

theorem written_object_iff {fields fields' : List (String × Json)} :
  (object fields).written = (object fields').written ↔ fieldForms fields = fieldForms fields'
  := by
  constructor
  · intro equal
    exact (fields_eq_of_append (fun field _ => field.2.prefixFree_written) (congrArg (· ++ []) equal)).1
  · intro equal
    rw [written, written, writtenFields_eq, writtenFields_eq, equal]

/-- Two values whose canonical forms are compared may be taken to be of the same type. -/
theorem sorted_written_iff_of_typeName {old new : Json}
    (h : old.typeName = new.typeName →
      (old.sorted.written = new.sorted.written ↔ old.Alike (fun m n => m.written = n.written) new)) :
  old.sorted.written = new.sorted.written ↔ old.Alike (fun m n => m.written = n.written) new
  := by
  by_cases type : old.typeName = new.typeName
  · exact h type
  · apply iff_of_false
    · intro equal
      rw [← typeName_sorted old, ← typeName_sorted new] at type
      exact type (typeName_eq_of_append (congrArg (· ++ []) equal))
    · exact fun alike => type alike.typeName_eq

/-- Sorted values are written in the same way just when the values are alike. -/
theorem Distinct.sorted_written_iff {old new : Json} (distinct : old.Distinct) (distinct' : new.Distinct) :
  old.sorted.written = new.sorted.written ↔ old.Alike (fun m n => m.written = n.written) new
  := by
  induction distinct generalizing new with
  | null =>
    refine sorted_written_iff_of_typeName fun type => ?_
    cases new with
    | null => exact iff_of_true rfl .null
    | _ => simp [typeName] at type
  | bool b =>
    refine sorted_written_iff_of_typeName fun type => ?_
    cases new with
    | bool b' =>
      constructor
      · intro equal
        have same : b = b' := by
          revert equal
          cases b <;> cases b' <;> decide
        rw [same]
        exact .bool b'
      · rintro ⟨⟩
        rfl
    | _ => simp [typeName] at type
  | number n =>
    refine sorted_written_iff_of_typeName fun type => ?_
    cases new with
    | number n' =>
      constructor
      · exact fun equal => .number (by simpa only [sorted, written] using equal)
      · intro alike
        cases alike with
        | number equal => simpa only [sorted, written] using equal
    | _ => simp [typeName] at type
  | string s =>
    refine sorted_written_iff_of_typeName fun type => ?_
    cases new with
    | string s' =>
      constructor
      · intro equal
        obtain rfl := (quoted_append (congrArg (· ++ []) equal)).1
        exact .string s
      · rintro ⟨⟩
        rfl
    | _ => simp [typeName] at type
  | @list items _ ih =>
    refine sorted_written_iff_of_typeName fun type => ?_
    cases distinct' with
    | @list items' items_distinct' =>
      rw [sorted, sorted, written_list_iff, sortedItems_eq, sortedItems_eq, List.map_map, List.map_map,
        alike_list_iff]
      apply map_eq_map_iff_forall₂
      exact fun item hi item' hi' => ih item hi (items_distinct' item' hi')
    | _ => simp [typeName] at type
  | @object fields nodup _ ih =>
    refine sorted_written_iff_of_typeName fun type => ?_
    cases distinct' with
    | @object fields' nodup' fields_distinct' =>
      rw [sorted, sorted, written_object_iff, fieldForms_sortFields, fieldForms_sortFields,
        sortEntries_eq_iff (by rwa [names_canonicalForms]),
        perm_iff_lookup (by rwa [names_canonicalForms]) (by rwa [names_canonicalForms]),
        alike_object_iff nodup nodup']
      refine forall_congr' fun name => ?_
      rw [lookup_canonicalForms, lookup_canonicalForms]
      apply map_eq_map_iff_rel
      intro value hv value' hv'
      exact ih _ (mem_of_lookup hv) (fields_distinct' _ (mem_of_lookup hv'))
    | _ => simp [typeName] at type

theorem Distinct.canonical_eq_iff {old new : Json} (distinct : old.Distinct) (distinct' : new.Distinct) :
  old.canonical = new.canonical ↔ old.Alike (fun m n => m.written = n.written) new
  := by
  rw [canonical, canonical, compact, compact, String.ofList_inj, distinct.sorted_written_iff distinct']

end Json

/-! ### Fingerprints -/

theorem toList_loop_eq (bytes : ByteArray) (i : Nat) (read : List UInt8) :
  ByteArray.toList.loop bytes i read = read.reverse ++ bytes.data.toList.drop i
  := by
  induction i, read using ByteArray.toList.loop.induct bytes with
  | case1 i read inside ih =>
    have bound : i < bytes.data.toList.length := by simpa using inside
    have here : bytes.get! i = bytes.data.toList[i] := getElem!_pos bytes.data i bound
    rw [ByteArray.toList.loop, if_pos inside, ih, List.drop_eq_getElem_cons bound, here]
    simp
  | case2 i read outside =>
    have past : bytes.data.toList.length ≤ i := by simpa using outside
    rw [ByteArray.toList.loop, if_neg outside, List.drop_eq_nil_of_le past, List.append_nil]

theorem utf8_injective :
  Function.Injective utf8
  := by
  have bytes (text : String) : utf8 text = text.toByteArray.data.toList := by
    rw [utf8, ByteArray.toList, toList_loop_eq]
    rfl
  intro text text' equal
  rw [bytes, bytes, Array.toList_inj] at equal
  exact String.toByteArray_inj.mp (ByteArray.ext equal)

theorem hexText_injective :
  Function.Injective hexText
  := by
  have digit : ∀ m < 16, ∀ n < 16, (Nat.toDigits 16 m).headD '0' = (Nat.toDigits 16 n).headD '0' → m = n := by decide
  intro bytes bytes' equal
  induction bytes generalizing bytes' with
  | nil =>
    cases bytes' with
    | nil => rfl
    | cons byte' bytes' => cases equal
  | cons byte bytes ih =>
    cases bytes' with
    | nil => cases equal
    | cons byte' bytes' =>
      have small := byte.toNat_lt
      have small' := byte'.toNat_lt
      obtain ⟨high, low, rest⟩ : _ ∧ _ ∧ hexText bytes = hexText bytes' := by
        simpa only [hexText, List.flatMap_cons, List.cons_append, List.nil_append, List.cons.injEq] using equal
      have high' := digit _ (by omega) _ (by omega) high
      have low' := digit _ (by omega) _ (by omega) low
      rw [ih rest, UInt8.toNat_inj.mp (by omega : byte.toNat = byte'.toNat)]

/-- The data of properties, as their fingerprint takes them. -/
def propertyTree (properties : Option Expression) : Json := (properties.map Expression.toJson).getD .null

theorem fingerprint_eq_iff {properties properties' : Option Expression} :
  fingerprint properties = fingerprint properties'
    ↔ Sha256.hash (utf8 (propertyTree properties).canonical) = Sha256.hash (utf8 (propertyTree properties').canonical)
  := by
  unfold fingerprint sha256Hex
  rw [String.append_right_inj, String.ofList_inj, hexText_injective.eq_iff]
  rfl

/-- The hash does not take two messages for each other. -/
def Sha256.TellsApart (message message' : List UInt8) : Prop := hash message = hash message' → message = message'

/-- The canonical forms of two values are the same just when the values are equal up to the order of fields, numbers
compared by their written forms.  So the fingerprint of properties does not depend on the order of fields, and tells
properties apart whose canonical forms the hash tells apart. -/
theorem canonical_tells :
  (∀ value value' : Json, value.Distinct → value'.Distinct →
    (value.canonical = value'.canonical ↔ value.Alike (fun m n => m.written = n.written) value'))
    ∧ ∀ properties properties' : Option Expression,
      (propertyTree properties).Distinct → (propertyTree properties').Distinct →
        ((propertyTree properties).Alike (fun m n => m.written = n.written) (propertyTree properties') →
          fingerprint properties = fingerprint properties')
        ∧ (Sha256.TellsApart (utf8 (propertyTree properties).canonical) (utf8 (propertyTree properties').canonical) →
          fingerprint properties = fingerprint properties' →
          (propertyTree properties).Alike (fun m n => m.written = n.written) (propertyTree properties'))
  := by
  refine ⟨fun value value' distinct distinct' => distinct.canonical_eq_iff distinct', ?_⟩
  intro properties properties' distinct distinct'
  rw [fingerprint_eq_iff]
  constructor
  · intro alike
    rw [(distinct.canonical_eq_iff distinct').mpr alike]
  · intro apart equal
    exact (distinct.canonical_eq_iff distinct').mp (utf8_injective (apart equal))

/-- Properties with a list of a size, a text that is escaped and an object inside. -/
def Expression.sized (size : Number) : Expression := .object [
  ("Id", .string "a\"b\n"), ("Size", .list [.number size, .null]),
  ("", .object [("y", .bool true), ("x", .ref "Vpc")])]

/-- The same properties, of size one, with their fields in another order. -/
def Expression.reordered : Expression := .object [
  ("", .object [("x", .ref "Vpc"), ("y", .bool true)]), ("Id", .string "a\"b\n"),
  ("Size", .list [.number (.int 1), .null])]

/-- The fingerprint stays the same when fields are reordered, and changes when an integer becomes a real number. -/
theorem canonical_tells_reordered :
  fingerprint (some (.sized (.int 1))) = fingerprint (some .reordered)
    ∧ fingerprint (some (.sized (.int 1))) ≠ fingerprint (some (.sized (.real (.zero false))))
  := by
  have distinct : (propertyTree (some (.sized (.int 1)))).Distinct := by decide
  have distinct' : (propertyTree (some .reordered)).Distinct := by decide
  have distinct'' : (propertyTree (some (.sized (.real (.zero false))))).Distinct := by decide
  have one : (propertyTree (some (.sized (.int 1)))).canonical
      = "\x7b\"\":\x7b\"x\":\x7b\"Ref\":\"Vpc\"\x7d,\"y\":true\x7d,\"Id\":\"a\\\"b\\n\",\"Size\":[1,null]\x7d" := by
    cbv
  have zero : (propertyTree (some (.sized (.real (.zero false))))).canonical
      = "\x7b\"\":\x7b\"x\":\x7b\"Ref\":\"Vpc\"\x7d,\"y\":true\x7d,\"Id\":\"a\\\"b\\n\",\"Size\":[0.0,null]\x7d" := by
    cbv
  constructor
  · have same : (propertyTree (some (.sized (.int 1)))).canonical = (propertyTree (some .reordered)).canonical := by
      rw [one]
      cbv
    apply (canonical_tells.2 _ _ distinct distinct').1
    exact (canonical_tells.1 _ _ distinct distinct').mp same
  · have apart : Sha256.TellsApart (utf8 (propertyTree (some (.sized (.int 1)))).canonical)
        (utf8 (propertyTree (some (.sized (.real (.zero false))))).canonical) := by
      rw [one, zero]
      intro equal
      revert equal
      decide +kernel
    intro equal
    have alike := (canonical_tells.2 _ _ distinct distinct'').2 apart equal
    have same := (canonical_tells.1 _ _ distinct distinct'').mpr alike
    rw [one, zero] at same
    revert same
    decide

end Reconcile
