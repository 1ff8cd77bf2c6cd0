import Mathlib.Tactic.Common
import Reconcile.Table

/-!
# Entries of tables

A table has no entries but those that it was made of.  A map that keeps the names of entries, and
drops some of them, makes a table of a table.
-/

namespace Reconcile

/-! ### Looking up in parts -/

theorem lookup_append {α : Type} (name : String) (entries more : List (String × α)) :
  lookup name (entries ++ more) = (lookup name entries).or (lookup name more)
  := by
  induction entries with
  | nil => rfl
  | cons entry rest ih =>
    obtain ⟨key, value⟩ := entry
    simp only [List.cons_append, lookup]
    split
    · rfl
    · exact ih

theorem lookup_eq_none_of_not_mem {α : Type} {name : String} {entries : List (String × α)}
    (h : name ∉ entries.map (·.1)) :
  lookup name entries = none
  := by
  rw [← Option.not_isSome_iff_eq_none, lookup_isSome_iff]
  exact h

theorem lookup_append_of_mem {α : Type} {name : String} {entries : List (String × α)} (more : List (String × α))
    (h : name ∈ entries.map (·.1)) :
  lookup name (entries ++ more) = lookup name entries
  := by
  rw [lookup_append, Option.or_of_isSome ((lookup_isSome_iff name entries).mpr h)]

theorem lookup_append_of_not_mem {α : Type} {name : String} {entries : List (String × α)} (more : List (String × α))
    (h : name ∉ entries.map (·.1)) :
  lookup name (entries ++ more) = lookup name more
  := by
  rw [lookup_append, lookup_eq_none_of_not_mem h, Option.none_or]

/-! ### Entering -/

theorem enter_enter {α : Type} (name : String) (first second : α) (entries : List (String × α)) :
  enter name second (enter name first entries) = enter name second entries
  := by
  induction entries with
  | nil => simp [enter]
  | cons entry rest ih =>
    obtain ⟨key, value⟩ := entry
    by_cases same : key = name
    · simp [enter, same]
    · simp [enter, same, ih]

/-- To enter the value that a name has changes nothing. -/
theorem enter_self {α : Type} {name : String} {value : α} {entries : List (String × α)}
    (h : lookup name entries = some value) :
  enter name value entries = entries
  := by
  induction entries with
  | nil => cases h
  | cons entry rest ih =>
    obtain ⟨key, first⟩ := entry
    by_cases same : key = name
    · simp only [lookup, same, if_true, Option.some.injEq] at h
      simp [enter, same, h]
    · simp only [lookup, same, if_false] at h
      simp [enter, same, ih h]

theorem lookup_filter {α : Type} (keep : String → Bool) (name : String) (entries : List (String × α)) :
  lookup name (entries.filter fun entry => keep entry.1) = if keep name then lookup name entries else none
  := by
  induction entries with
  | nil => simp [lookup]
  | cons entry rest ih =>
    obtain ⟨key, value⟩ := entry
    by_cases same : key = name
    · subst same
      cases kept : keep key <;> simp [lookup, kept, ih]
    · cases kept : keep key <;> simp [lookup, kept, same, ih]

theorem mem_of_mem_enter {α : Type} {name : String} {value : α} {entries : List (String × α)} {entry : String × α}
    (h : entry ∈ enter name value entries) :
  entry = (name, value) ∨ entry ∈ entries
  := by
  induction entries with
  | nil => exact .inl (List.mem_singleton.mp h)
  | cons other rest ih =>
    unfold enter at h
    split at h
    · next same =>
      obtain rfl | h := List.mem_cons.mp h
      · exact .inl (Prod.ext same rfl)
      · exact .inr (List.mem_cons_of_mem _ h)
    · obtain rfl | h := List.mem_cons.mp h
      · exact .inr List.mem_cons_self
      · exact (ih h).imp_right (List.mem_cons_of_mem _)

theorem mem_of_mem_foldl_enter {α : Type} {pairs before : List (String × α)} {entry : String × α}
    (h : entry ∈ pairs.foldl (fun entries pair => enter pair.1 pair.2 entries) before) :
  entry ∈ before ∨ entry ∈ pairs
  := by
  induction pairs generalizing before with
  | nil => exact .inl h
  | cons pair rest ih =>
    obtain h | h := ih h
    · obtain rfl | h := mem_of_mem_enter h
      · exact .inr List.mem_cons_self
      · exact .inl h
    · exact .inr (List.mem_cons_of_mem _ h)

/-- A table of pairs has no other entries. -/
theorem mem_of_mem_enterAll {α : Type} {pairs : List (String × α)} {entry : String × α} (h : entry ∈ enterAll pairs) :
  entry ∈ pairs
  := (mem_of_mem_foldl_enter h).resolve_left List.not_mem_nil

/-- The entries that are kept by a map which keeps names. -/
theorem map_filterMap_fst {α β : Type} (f : String × α → Option β) (entries : List (String × α)) :
  (entries.filterMap fun entry => (f entry).map (entry.1, ·)).map (·.1)
    = (entries.filter fun entry => (f entry).isSome).map (·.1)
  := by
  induction entries with
  | nil => rfl
  | cons entry rest ih =>
    rw [List.filterMap_cons, List.filter_cons]
    cases f entry with
    | none => simpa using ih
    | some value => simpa using ih

theorem Table.nodup_filterMap {α β : Type} (f : String × α → Option β) (table : Table α) :
  ((table.entries.filterMap fun entry => (f entry).map (entry.1, ·)).map (·.1)).Nodup
  := by
  rw [map_filterMap_fst]
  apply table.nodup.sublist (List.filter_sublist.map _)

theorem Table.get?_filter {α : Type} (table : Table α) (keep : String → α → Bool) {name : String} {value : α} :
  (table.filter keep).get? name = some value ↔ table.get? name = some value ∧ keep name value
  := by simp [Table.get?_eq_some_iff, Table.filter]

/-- The table of the entries that a map keeps. -/
theorem Table.get?_filterMap {α β : Type} (f : String × α → Option β) (table : Table α) {name : String} {value : β} :
  (Table.ofList (table.entries.filterMap fun entry => (f entry).map (entry.1, ·))).get? name = some value
    ↔ ∃ a, table.get? name = some a ∧ f (name, a) = some value
  := by
  rw [Table.get?_eq_some_iff, Table.entries_ofList (table.nodup_filterMap f), List.mem_filterMap]
  simp only [Table.get?_eq_some_iff]
  constructor
  · rintro ⟨⟨other, a⟩, hm, he⟩
    obtain ⟨value', hf, ⟨⟩⟩ := Option.map_eq_some_iff.mp he
    exact ⟨a, hm, hf⟩
  · rintro ⟨a, hm, hf⟩
    exact ⟨(name, a), hm, by rw [hf]; rfl⟩

end Reconcile
