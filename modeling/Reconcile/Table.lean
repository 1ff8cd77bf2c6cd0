/-!
# Insertion-ordered tables

`Table α` is a finite map from names to `α` that remembers the order in which its names
were first entered.  Entering a name again keeps its place and takes the new value.  Two
tables are the same table when they have the same names with the same values, whatever
the order.
-/

namespace Reconcile

/-- The value entered under a name in a list of named values, the first one if there are several. -/
def lookup {α : Type} (name : String) : List (String × α) → Option α
  | [] => none
  | (key, value) :: rest => if key = name then some value else lookup name rest

/-- Enter a value under a name: in place when the name is there, at the end otherwise. -/
def enter {α : Type} (name : String) (value : α) : List (String × α) → List (String × α)
  | [] => [(name, value)]
  | (key, old) :: rest =>
    if key = name then (key, value) :: rest else (key, old) :: enter name value rest

/-- Enter every pair in turn, so that a repeated name keeps its first place and its last value. -/
def enterAll {α : Type} (pairs : List (String × α)) : List (String × α) :=
  pairs.foldl (fun entries pair => enter pair.1 pair.2 entries) []

theorem mem_keys_enter {α : Type} (name : String) (value : α) (entries : List (String × α)) (key : String) :
  key ∈ (enter name value entries).map (·.1) ↔ key = name ∨ key ∈ entries.map (·.1)
  := by
  induction entries with
  | nil => simp [enter]
  | cons entry rest ih =>
    obtain ⟨k, old⟩ := entry
    by_cases h : k = name
    · subst h
      simp [enter]
    · simp only [enter, h, if_false, List.map_cons, List.mem_cons, ih]
      constructor
      · rintro (hk | hk | hk) <;> simp [hk]
      · rintro (hk | hk | hk) <;> simp [hk]

theorem nodup_enter {α : Type} (name : String) (value : α) {entries : List (String × α)}
    (nodup : (entries.map (·.1)).Nodup) :
  ((enter name value entries).map (·.1)).Nodup
  := by
  induction entries with
  | nil => simp [enter]
  | cons entry rest ih =>
    obtain ⟨k, old⟩ := entry
    simp only [List.map_cons, List.nodup_cons] at nodup
    by_cases h : k = name
    · subst h
      simpa only [enter, if_true, List.map_cons, List.nodup_cons] using nodup
    · simp only [enter, if_neg h, List.map_cons, List.nodup_cons, mem_keys_enter]
      exact ⟨fun hk => hk.elim h nodup.1, ih nodup.2⟩

theorem nodup_foldl_enter {α : Type} (pairs : List (String × α)) {entries : List (String × α)}
    (nodup : (entries.map (·.1)).Nodup) :
  ((pairs.foldl (fun entries pair => enter pair.1 pair.2 entries) entries).map (·.1)).Nodup
  := by
  induction pairs generalizing entries with
  | nil => exact nodup
  | cons pair rest ih => exact ih (nodup_enter pair.1 pair.2 nodup)

theorem lookup_enter {α : Type} (name : String) (value : α) (entries : List (String × α)) (other : String) :
  lookup other (enter name value entries) = if other = name then some value else lookup other entries
  := by
  induction entries with
  | nil => simp [enter, lookup, eq_comm]
  | cons entry rest ih =>
    obtain ⟨key, old⟩ := entry
    by_cases hk : key = name
    · subst hk
      by_cases ho : other = key
      · simp [enter, lookup, ho]
      · simp [enter, lookup, ho, Ne.symm ho]
    · by_cases ho : key = other
      · subst ho
        simp [enter, lookup, hk]
      · simp [enter, lookup, hk, ho, ih]

theorem keys_enter {α : Type} (name : String) (value : α) {entries : List (String × α)}
    (h : name ∈ entries.map (·.1)) :
  (enter name value entries).map (·.1) = entries.map (·.1)
  := by
  induction entries with
  | nil => simp at h
  | cons entry rest ih =>
    obtain ⟨key, old⟩ := entry
    by_cases hk : key = name
    · simp [enter, hk]
    · simp only [List.map_cons, List.mem_cons, Ne.symm hk, false_or] at h
      simp [enter, hk, ih h]

theorem enter_of_not_mem {α : Type} {name : String} (value : α) {entries : List (String × α)}
    (h : name ∉ entries.map (·.1)) :
  enter name value entries = entries ++ [(name, value)]
  := by
  induction entries with
  | nil => rfl
  | cons entry rest ih =>
    obtain ⟨key, old⟩ := entry
    simp only [List.map_cons, List.mem_cons, not_or] at h
    simp only [enter, if_neg (Ne.symm h.1), ih h.2, List.cons_append]

/-- Pairs with different names are entered one after the other. -/
theorem foldl_enter_of_nodup {α : Type} (pairs entries : List (String × α))
    (nodup : ((entries ++ pairs).map (·.1)).Nodup) :
  pairs.foldl (fun entries pair => enter pair.1 pair.2 entries) entries = entries ++ pairs
  := by
  induction pairs generalizing entries with
  | nil => exact (List.append_nil entries).symm
  | cons pair rest ih =>
    have fresh : pair.1 ∉ entries.map (·.1) := by
      rw [List.map_append] at nodup
      intro h
      exact (List.nodup_append.mp nodup).2.2 _ h _ (by simp) rfl
    rw [List.foldl_cons, enter_of_not_mem pair.2 fresh, ih]
    · simp
    · simpa using nodup

theorem lookup_isSome_iff {α : Type} (name : String) (entries : List (String × α)) :
  (lookup name entries).isSome ↔ name ∈ entries.map (·.1)
  := by
  induction entries with
  | nil => simp [lookup]
  | cons entry rest ih =>
    obtain ⟨key, value⟩ := entry
    by_cases h : key = name
    · simp [lookup, h]
    · simp [lookup, h, ih, Ne.symm h]

theorem lookup_map {α β : Type} (f : α → β) (name : String) (entries : List (String × α)) :
  lookup name (entries.map fun entry => (entry.1, f entry.2)) = (lookup name entries).map f
  := by
  induction entries with
  | nil => rfl
  | cons entry rest ih =>
    obtain ⟨key, value⟩ := entry
    by_cases h : key = name
    · simp [lookup, h]
    · simp [lookup, h, ih]

theorem mem_of_lookup {α : Type} {name : String} {value : α} {entries : List (String × α)}
    (h : lookup name entries = some value) :
  (name, value) ∈ entries
  := by
  induction entries with
  | nil => simp [lookup] at h
  | cons entry rest ih =>
    obtain ⟨key, first⟩ := entry
    by_cases hk : key = name
    · simp only [lookup, hk, if_true, Option.some.injEq] at h
      simp [hk, h]
    · simp only [lookup, hk, if_false] at h
      exact List.mem_cons_of_mem _ (ih h)

theorem lookup_of_mem {α : Type} {name : String} {value : α} {entries : List (String × α)}
    (nodup : (entries.map (·.1)).Nodup) (h : (name, value) ∈ entries) :
  lookup name entries = some value
  := by
  induction entries with
  | nil => simp at h
  | cons entry rest ih =>
    obtain ⟨key, first⟩ := entry
    simp only [List.map_cons, List.nodup_cons] at nodup
    rcases List.mem_cons.mp h with he | hr
    · simp only [Prod.mk.injEq] at he
      simp [lookup, he.1, he.2]
    · have hk : key ≠ name := by
        rintro rfl
        exact nodup.1 (List.mem_map.mpr ⟨_, hr, rfl⟩)
      simpa [lookup, hk] using ih nodup.2 hr

/-- A finite map from names that remembers the order of entry. -/
structure Table (α : Type) where
  /-- The entries in order of first entry. -/
  entries : List (String × α)
  /-- No name has two entries. -/
  nodup : (entries.map (·.1)).Nodup

namespace Table

variable {α β : Type}

/-- The table without entries. -/
def empty : Table α := ⟨[], by simp⟩

instance : Inhabited (Table α) := ⟨empty⟩

/-- The value of a name. -/
def get? (table : Table α) (name : String) : Option α := lookup name table.entries

/-- Whether a name has an entry. -/
def contains (table : Table α) (name : String) : Bool := (table.get? name).isSome

/-- The names in order of first entry. -/
def names (table : Table α) : List String := table.entries.map (·.1)

/-- The values in the order of their names. -/
def values (table : Table α) : List α := table.entries.map (·.2)

/-- The number of entries. -/
def size (table : Table α) : Nat := table.entries.length

/-- Whether there are no entries. -/
def isEmpty (table : Table α) : Bool := table.entries.isEmpty

/-- Enter a value: in place when the name is there, at the end otherwise. -/
def insert (table : Table α) (name : String) (value : α) : Table α :=
  ⟨enter name value table.entries, nodup_enter name value table.nodup⟩

/-- The table of a list of pairs: a repeated name keeps its first place and its last value. -/
def ofList (pairs : List (String × α)) : Table α :=
  ⟨enterAll pairs, nodup_foldl_enter pairs (by simp)⟩

/-- Keep the entries that satisfy a condition. -/
def filter (table : Table α) (keep : String → α → Bool) : Table α :=
  ⟨table.entries.filter fun entry => keep entry.1 entry.2,
    table.nodup.sublist (List.filter_sublist.map _)⟩

/-- Change every value, keeping names and order. -/
def map (table : Table α) (f : α → β) : Table β :=
  ⟨table.entries.map fun entry => (entry.1, f entry.2), by
    simpa [List.map_map, Function.comp_def] using table.nodup⟩

/-- Two tables agree: the same names with values that `same` identifies, in any order. -/
def agrees (same : α → α → Bool) (left right : Table α) : Bool :=
  left.size == right.size
    && left.entries.all fun entry => (right.get? entry.1).any (same entry.2)

@[simp]
theorem names_ofEntries (entries : List (String × α)) (nodup : (entries.map (·.1)).Nodup) :
  names ⟨entries, nodup⟩ = entries.map (·.1)
  := rfl

theorem entries_ofList {pairs : List (String × α)} (nodup : (pairs.map (·.1)).Nodup) :
  (ofList pairs).entries = pairs
  := foldl_enter_of_nodup pairs [] nodup

theorem get?_eq_some_iff (table : Table α) (name : String) (value : α) :
  table.get? name = some value ↔ (name, value) ∈ table.entries
  := ⟨mem_of_lookup, lookup_of_mem table.nodup⟩

theorem contains_iff (table : Table α) (name : String) :
  table.contains name ↔ name ∈ table.names
  := lookup_isSome_iff name table.entries

theorem exists_get?_iff (table : Table α) (name : String) :
  (∃ value, table.get? name = some value) ↔ name ∈ table.names
  := by
  rw [← contains_iff, contains, Option.isSome_iff_exists]

theorem mem_values (table : Table α) (value : α) :
  value ∈ table.values ↔ ∃ name, table.get? name = some value
  := by
  simp [values, get?_eq_some_iff]

theorem nodup_names (table : Table α) :
  table.names.Nodup
  := table.nodup

theorem get?_insert (table : Table α) (name : String) (value : α) (other : String) :
  (table.insert name value).get? other = if other = name then some value else table.get? other
  := lookup_enter name value table.entries other

theorem names_insert (table : Table α) {name : String} (value : α) (h : name ∈ table.names) :
  (table.insert name value).names = table.names
  := keys_enter name value h

@[simp]
theorem get?_empty (name : String) :
  (empty : Table α).get? name = none
  := rfl

theorem get?_map (table : Table α) (f : α → β) (name : String) :
  (table.map f).get? name = (table.get? name).map f
  := lookup_map f name table.entries

@[simp]
theorem names_map (table : Table α) (f : α → β) :
  (table.map f).names = table.names
  := by
  simp [map, names]

end Table

end Reconcile
