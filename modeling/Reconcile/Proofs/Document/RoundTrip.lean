import Mathlib.Data.List.Nodup
import Mathlib.Tactic.Common
import Reconcile.Proofs.Expression.RoundTrip

/-!
# Documents read, written and read again

What is read from a value is read again from what it is written as.  Reading is not injective: a
field may be null or missing, a list of one text may be that text, a record may be a list of its
fields, an integer may stand for a real number.  Writing chooses one of these forms.
-/

namespace Reconcile

/-! ### Values -/

/-- A value that JSON can hold: in no object a name is repeated, and integers have 64 bits. -/
inductive Json.Proper : Json → Prop where
  | null : Proper .null
  | bool (b : Bool) : Proper (.bool b)
  | int {n : Int} (bounded : -(Nat.pow 2 63 : Int) ≤ n ∧ n < Nat.pow 2 64) : Proper (.number (.int n))
  | real (x : Double) : Proper (.number (.real x))
  | string (s : String) : Proper (.string s)
  | list {items : List Json} (items_proper : ∀ item ∈ items, item.Proper) : Proper (.list items)
  | object {fields : List (String × Json)} (nodup : (fields.map (·.1)).Nodup)
      (fields_proper : ∀ field ∈ fields, field.2.Proper) : Proper (.object fields)

theorem Json.Proper.distinct {value : Json} (proper : value.Proper) :
  value.Distinct
  := by
  induction proper with
  | null => exact .null
  | bool b => exact .bool b
  | int _ => exact .number _
  | real x => exact .number _
  | string s => exact .string s
  | list _ ih => exact .list ih
  | object nodup _ ih => exact .object nodup ih

namespace Json

attribute [simp] Proper.null Proper.bool Proper.real Proper.string

@[simp]
theorem proper_int {n : Int} :
  (int n).Proper ↔ -(Nat.pow 2 63 : Int) ≤ n ∧ n < Nat.pow 2 64
  := ⟨fun | .int bounded => bounded, .int⟩

@[simp]
theorem proper_list {items : List Json} :
  (list items).Proper ↔ ∀ item ∈ items, item.Proper
  := ⟨fun | .list items_proper => items_proper, .list⟩

@[simp]
theorem proper_object {fields : List (String × Json)} :
  (object fields).Proper ↔ (fields.map (·.1)).Nodup ∧ ∀ field ∈ fields, field.2.Proper
  := ⟨fun | .object nodup fields_proper => ⟨nodup, fields_proper⟩,
    fun ⟨nodup, fields_proper⟩ => .object nodup fields_proper⟩

end Json

/-- The table of the entries of a table. -/
theorem Table.ofList_entries {α : Type} (table : Table α) :
  ofList table.entries = table
  := by
  cases table with
  | mk entries nodup => simp only [ofList, enterAll, foldl_enter_of_nodup entries [] nodup, List.nil_append]

/-! ### Integers as real numbers -/

theorem floorLog2_le (num den : Nat) :
  floorLog2 num den ≤ num.log2
  := by
  dsimp only [floorLog2]
  split
  · omega
  · omega

/-- An integer of few bits is near a finite number. -/
theorem Extended.exists_finite_ofRatio {num : Nat} (h : num < Nat.pow 2 64) (negative : Bool) :
  ∃ x, ofRatio negative num 1 = .finite x
  := by
  unfold ofRatio
  split
  · exact ⟨_, rfl⟩
  · next positive =>
    have bits : num.log2 < 64 := (Nat.log2_lt positive).mpr h
    have small : max (floorLog2 num 1 - 52) (-1074) < 13 := by
      have := floorLog2_le num 1
      omega
    generalize max (floorLog2 num 1 - 52) (-1074) = exponent at small ⊢
    dsimp only
    generalize (if 0 ≤ exponent then _ else _ : Nat) = rounded
    have least : ¬971 < (if rounded = Nat.pow 2 53 then (Nat.pow 2 52, exponent + 1) else (rounded, exponent)).2 := by
      split
      · dsimp only
        omega
      · dsimp only
        omega
    rw [if_neg least]
    exact ⟨_, rfl⟩

theorem Extended.exists_finite_ofInt {n : Int} (bounded : -(Nat.pow 2 63 : Int) ≤ n ∧ n < Nat.pow 2 64) :
  ∃ x, ofInt n = .finite x
  := by
  apply exists_finite_ofRatio
  have bits : Nat.pow 2 63 < Nat.pow 2 64 := by decide
  omega

namespace Document

/-! ### Documents of values -/

theorem ofItems_eq_map (items : List Json) :
  ofItems items = items.map ofJson
  := by
  induction items with
  | nil => rfl
  | cons item rest ih => simp only [ofItems, ih, List.map_cons]

theorem ofFields_eq_map (fields : List (String × Json)) :
  ofFields fields = fields.map fun field => (field.1, ofJson field.2)
  := by
  induction fields with
  | nil => rfl
  | cons field rest ih =>
    obtain ⟨key, value⟩ := field
    simp only [ofFields, ih, List.map_cons]

mutual

/-- The value of the document of a value. -/
theorem toJson_ofJson (value : Json) (distinct : value.Distinct) :
  (ofJson value).toJson = .ok value
  := by
  match value, distinct with
  | .null, _ | .bool _, _ | .number _, _ | .string _, _ => rfl
  | .list items, .list distinct => simp only [ofJson, toJson, toItems_ofItems items distinct, Except.map]
  | .object entries, .object nodup distinct =>
    simp only [ofJson, toJson, toFields_ofFields entries distinct, Except.map, Json.ofFields]
    rw [show enterAll entries = entries from foldl_enter_of_nodup entries [] nodup]

theorem toItems_ofItems (items : List Json) (distinct : ∀ item ∈ items, item.Distinct) :
  toItems (ofItems items) = .ok items
  := by
  match items with
  | [] => rfl
  | item :: rest =>
    obtain ⟨first, distinct⟩ := List.forall_mem_cons.mp distinct
    simp only [ofItems, toItems, toJson_ofJson item first, toItems_ofItems rest distinct]
    rfl

theorem toFields_ofFields (fields : List (String × Json)) (distinct : ∀ field ∈ fields, field.2.Distinct) :
  toFields (ofFields fields) = .ok fields
  := by
  match fields with
  | [] => rfl
  | (key, value) :: rest =>
    obtain ⟨first, distinct⟩ := List.forall_mem_cons.mp distinct
    simp only [ofFields, toFields, toJson_ofJson value first, toFields_ofFields rest distinct]
    rfl

end

/-! ### Decoders whose results are written -/

section

variable {α : Type}

/-- What a decoder reads from a value is read again from what it is written as.  It is written as
null only where it was read from null, so that it does not get absent. -/
structure Rereads (item : Decoder α) (write : α → Json) : Prop where
  again : ∀ {value a}, value.Proper → item (ofJson value) = .ok a → item (ofJson (write a)) = .ok a
  present : ∀ {value a}, value.Proper → item (ofJson value) = .ok a → value ≠ .null → write a ≠ .null

theorem optional_of_ne_null (item : Decoder α) {value : Json} (h : value ≠ .null) :
  optional item (ofJson value) = (item (ofJson value)).map some
  := by
  cases value with
  | null => exact absurd rfl h
  | _ => rfl

theorem rereads_string :
  Rereads string .string
  where
  again _ _ := rfl
  present _ _ _ := nofun

theorem rereads_toJson :
  Rereads toJson id
  where
  again := by
    intro value a proper h
    rw [toJson_ofJson value proper.distinct] at h
    cases h
    exact toJson_ofJson value proper.distinct
  present := by
    intro value a proper h given
    rw [toJson_ofJson value proper.distinct] at h
    cases h
    exact given

theorem rereads_expression :
  Rereads expression Expression.toJson
  where
  again := by
    intro value e proper h
    obtain ⟨value', read, h⟩ := Except.bind_eq_ok.mp h
    rw [toJson_ofJson value proper.distinct] at read
    cases read
    obtain ⟨written, again⟩ := Expression.settles_of_parse value (Except.mapError_eq_ok.mp h)
    have reread := toJson_ofJson value.settled (Json.distinct_settled value proper.distinct)
    rw [← written] at reread again
    simp only [expression, reread]
    exact Except.mapError_eq_ok.mpr again
  present := by
    intro value e proper h given
    obtain ⟨value', read, h⟩ := Except.bind_eq_ok.mp h
    rw [toJson_ofJson value proper.distinct] at read
    cases read
    rw [(Expression.settles_of_parse value (Except.mapError_eq_ok.mp h)).written]
    exact fun null => given (Json.settled_eq_null null)

theorem rereads_count :
  Rereads count .nat
  where
  again {value n} _ _ := by
    have whole : 0 ≤ (n : Int) := Int.natCast_nonneg n
    simp only [count, Json.nat, ofJson, unmarked, Scalar.ofNumber, whole, if_true, Int.toNat_natCast]
  present _ _ _ := nofun

theorem rereads_real :
  Rereads real Extended.toJson
  where
  again := by
    intro value x proper h
    cases proper with
    | int bounded =>
      obtain ⟨y, near⟩ := Extended.exists_finite_ofInt bounded
      simp only [real, ofJson, unmarked, Scalar.ofNumber, near] at h
      cases h
      rfl
    | real y =>
      cases h
      rfl
    | _ => cases h
  present := by
    intro value x proper h _
    cases proper with
    | int bounded =>
      obtain ⟨y, near⟩ := Extended.exists_finite_ofInt bounded
      simp only [real, ofJson, unmarked, Scalar.ofNumber, near] at h
      cases h
      nofun
    | real y =>
      cases h
      nofun
    | _ => cases h

/-- A list is read from the written forms of its items when each of them is. -/
theorem mapM_written {item : Decoder α} {write : α → Json} {items : List α}
    (h : ∀ a ∈ items, item (ofJson (write a)) = .ok a) :
  (ofItems (items.map write)).mapM item = .ok items
  := by
  induction items with
  | nil => rfl
  | cons a rest ih =>
    obtain ⟨first, h⟩ := List.forall_mem_cons.mp h
    rw [List.map_cons, ofItems, List.mapM_cons, first, ih h]
    rfl

theorem rereads_listOf {item : Decoder α} {write : α → Json} (rereads : Rereads item write) :
  Rereads (listOf item) fun items => .list (items.map write)
  where
  again := by
    intro value items proper h
    apply mapM_written
    intro a ha
    cases proper with
    | @list values proper =>
      obtain ⟨document, hd, read⟩ := Except.exists_mem_of_mapM_eq_ok h ha
      rw [ofItems_eq_map] at hd
      obtain ⟨value, hv, rfl⟩ := List.mem_map.mp hd
      exact rereads.again (proper value hv) read
    | _ => cases h
  present _ _ _ := nofun

/-- A table is read from the written forms of its values when each of them is. -/
theorem mapM_writtenEntries {item : Decoder α} {write : α → Json} {entries : List (String × α)}
    (h : ∀ entry ∈ entries, item (ofJson (write entry.2)) = .ok entry.2) :
  (ofFields (entries.map fun entry => (entry.1, write entry.2))).mapM (fun entry => do
      let value ← item entry.2
      return (entry.1, value))
    = .ok entries
  := by
  induction entries with
  | nil => rfl
  | cons entry rest ih =>
    obtain ⟨first, h⟩ := List.forall_mem_cons.mp h
    rw [List.map_cons, ofFields, List.mapM_cons, first, ih h]
    rfl

theorem rereads_tableOf {item : Decoder α} {write : α → Json} (rereads : Rereads item write) :
  Rereads (tableOf item) fun table => .ofTable (table.map write)
  where
  again := by
    intro value table proper h
    have each : ∀ entry ∈ table.entries, item (ofJson (write entry.2)) = .ok entry.2 := by
      intro entry he
      cases proper with
      | @object fields _ proper =>
        obtain ⟨pairs, read, ⟨⟩⟩ := Except.bind_eq_ok.mp h
        obtain ⟨source, hs, read⟩ := Except.exists_mem_of_mapM_eq_ok read (mem_of_mem_enterAll he)
        obtain ⟨a, readValue, ⟨⟩⟩ := Except.bind_eq_ok.mp read
        rw [ofFields_eq_map] at hs
        obtain ⟨field, hf, rfl⟩ := List.mem_map.mp hs
        exact rereads.again (proper field hf) readValue
      | _ => cases h
    have written : tableOf item (ofJson (.ofTable (table.map write)))
        = (Except.ok table.entries).bind fun pairs => .ok (Table.ofList pairs) := by
      rw [← mapM_writtenEntries each]
      rfl
    rw [written]
    exact congrArg Except.ok (Table.ofList_entries table)
  present _ _ _ := nofun

end

/-! ### Records -/

/-- The fields of a record that are written. -/
def present (fields : List (String × Option Json)) : List (String × Json) :=
  fields.filterMap fun field => field.2.map (field.1, ·)

/-- The names of the fields that are written. -/
theorem names_present_sublist (fields : List (String × Option Json)) :
  ((present fields).map (·.1)).Sublist (fields.map (·.1))
  := by
  rw [present, map_filterMap_fst]
  exact List.filter_sublist.map _

/-- A field is found when it is written. -/
theorem lookup_present {fields : List (String × Option Json)} (nodup : (fields.map (·.1)).Nodup) {name : String}
    {field : Option Json} (place : lookup name fields = some field) :
  lookup name (present fields) = field
  := by
  have entered := Table.entries_ofList (Table.nodup_filterMap (·.2) ⟨fields, nodup⟩)
  ext value
  have found : _ ↔ ∃ a, Table.get? ⟨fields, nodup⟩ name = some a ∧ a = some value :=
    Table.get?_filterMap (·.2) ⟨fields, nodup⟩
  rw [Table.get?, entered] at found
  rw [present, found, Table.get?, place]
  constructor
  · rintro ⟨_, ⟨⟩, h⟩
    exact h
  · exact fun h => ⟨field, rfl, h⟩

/-- The record that is read from the fields that are written. -/
def Record.written (fields : List (String × Option Json)) : Record := ⟨ofFields (present fields)⟩

theorem record_present {fields : List (String × Option Json)} (nodup : (fields.map (·.1)).Nodup) :
  record (fields.map (·.1)) (ofJson (.object (present fields))) = .ok (.written fields)
  := by
  have names := names_present_sublist fields
  have known : (ofFields (present fields)).filter (fun entry => (fields.map (·.1)).contains entry.1)
      = ofFields (present fields) := by
    rw [List.filter_eq_self, ofFields_eq_map]
    intro entry he
    obtain ⟨field, hf, rfl⟩ := List.mem_map.mp he
    exact List.contains_iff_mem.mpr (names.subset (List.mem_map_of_mem hf))
  have once : (fields.map (·.1)).filter (fun name =>
      1 < ((ofFields (present fields)).filter fun entry => entry.1 == name).length) = [] := by
    rw [List.filter_eq_nil_iff]
    intro name _
    have counted := List.nodup_iff_count_le_one.mp (nodup.sublist names) name
    rw [List.count, List.countP_map, List.countP_eq_length_filter] at counted
    rw [ofFields_eq_map, List.filter_map, List.length_map, decide_eq_true_eq]
    exact Nat.not_lt.mpr counted
  unfold record
  simp only [ofJson, unmarked, known, once, List.head?_nil]
  rfl

namespace Record

theorem lookup_written {fields : List (String × Option Json)} (nodup : (fields.map (·.1)).Nodup) {name : String}
    {field : Option Json} (place : lookup name fields = some field) :
  lookup name (written fields).found = field.map ofJson
  := by
  rw [written, ofFields_eq_map, lookup_map, lookup_present nodup place]

/-- The fields of a record are documents of proper values. -/
def Proper (record : Record) : Prop := ∀ entry ∈ record.found, ∃ value, value.Proper ∧ entry.2 = ofJson value

end Record

theorem proper_record {value : Json} (proper : value.Proper) {names : List String} {fields : Record}
    (h : record names (ofJson value) = .ok fields) :
  fields.Proper
  := by
  cases proper with
  | @list items proper =>
    simp only [record, ofJson, unmarked] at h
    split at h
    · cases h
    · cases h
      intro entry he
      have listed := (List.of_mem_zip he).2
      rw [ofItems_eq_map] at listed
      obtain ⟨item, hi, same⟩ := List.mem_map.mp listed
      exact ⟨item, proper item hi, same.symm⟩
  | @object entries _ proper =>
    simp only [record, ofJson, unmarked] at h
    split at h
    · cases h
    · cases h
      intro entry he
      have named := List.mem_of_mem_filter he
      rw [ofFields_eq_map] at named
      obtain ⟨field, hf, rfl⟩ := List.mem_map.mp named
      exact ⟨field.2, proper field hf, rfl⟩
  | _ => cases h

namespace Record

variable {α : Type} {item : Decoder α} {write : α → Json} {written : List (String × Option Json)} {name : String}

section

variable (nodup : (written.map (·.1)).Nodup)

include nodup

/-- A field that must be there is read from what is written in its place. -/
theorem required_written {value : Json} {a : α} (place : lookup name written = some (some value))
    (again : item (ofJson value) = .ok a) :
  (Record.written written).required name item = .ok a
  := by
  have found := lookup_written nodup place
  simp only [required, found, Option.map_some, again, Except.mapError]

theorem withDefault_written {value : Json} {a default : α} (place : lookup name written = some (some value))
    (again : item (ofJson value) = .ok a) :
  (Record.written written).withDefault name default item = .ok a
  := by
  have found := lookup_written nodup place
  simp only [withDefault, found, Option.map_some, again, Except.mapError]

/-- A field that is not written has its default. -/
theorem withDefault_left_out {default : α} (place : lookup name written = some none) :
  (Record.written written).withDefault name default item = .ok default
  := by
  have found := lookup_written nodup place
  simp only [withDefault, found, Option.map_none]

end

section

variable (rereads : Rereads item write) {source : Record} (proper : source.Proper)
  (nodup : (written.map (·.1)).Nodup)

include rereads proper nodup

/-- A field that must be there is read again. -/
theorem required_again {a : α} (h : source.required name item = .ok a)
    (place : lookup name written = some (some (write a))) :
  (Record.written written).required name item = .ok a
  := by
  unfold required at h
  split at h
  · next document found =>
    obtain ⟨value, sound, rfl⟩ := proper _ (mem_of_lookup found)
    exact required_written nodup place (rereads.again sound (Except.mapError_eq_ok.mp h))
  · cases h

/-- A field with a default is read again, when it may be left out for the default only. -/
theorem withDefault_again {a default : α} (h : source.withDefault name default item = .ok a)
    (fallback : item (ofJson (write default)) = .ok default) {field : Option Json}
    (place : lookup name written = some field) (given : field = some (write a) ∨ field = none ∧ a = default) :
  (Record.written written).withDefault name default item = .ok a
  := by
  have again : item (ofJson (write a)) = .ok a := by
    unfold withDefault at h
    split at h
    · next document found =>
      obtain ⟨value, sound, rfl⟩ := proper _ (mem_of_lookup found)
      exact rereads.again sound (Except.mapError_eq_ok.mp h)
    · cases h
      exact fallback
  obtain rfl | ⟨rfl, rfl⟩ := given
  · exact withDefault_written nodup place again
  · exact withDefault_left_out nodup place

/-- A field that may be absent is read again: what was there is not written as null. -/
theorem optional_again {o : Option α} (h : source.optional name item = .ok o)
    (place : lookup name written = some (o.map write)) :
  (Record.written written).optional name item = .ok o
  := by
  cases o with
  | none => exact withDefault_left_out nodup place
  | some a =>
    unfold optional withDefault at h
    split at h
    · next document found =>
      obtain ⟨value, sound, rfl⟩ := proper _ (mem_of_lookup found)
      have read := Except.mapError_eq_ok.mp h
      have given : value ≠ .null := by
        rintro rfl
        cases read
      rw [optional_of_ne_null item given] at read
      obtain ⟨_, read, ⟨⟩⟩ := Except.map_eq_ok.mp read
      apply withDefault_written nodup place
      rw [optional_of_ne_null item (rereads.present sound read given), rereads.again sound read]
      rfl
    · cases h

end

end Record

end Document

end Reconcile
