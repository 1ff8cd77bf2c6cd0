import Mathlib.Tactic.Common
import Reconcile.Proofs.Json.Alike
import Reconcile.Proofs.Json.Pointer
import Reconcile.Proofs.Table

/-!
# Applying patches

A patch is applied one step after the other, each to what the steps before it have made.  A step finds
its place by its pointer: a part of it is the name of a field in an object and the number of an item in
a list.  A step may only remove or replace what is there, and may only add to a container that is there.

The difference of two values, applied to the first, gives a value that is alike to the second.
-/

namespace Reconcile

/-! ### Places -/

/-- The number that a part of a path writes, if it is below a bound. -/
def position? (part : String) (bound : Nat) : Option Nat := (List.range bound).find? fun i => toString i == part

theorem position?_toString {i bound : Nat} (h : i < bound) :
  position? (toString i) bound = some i
  := by
  have value (n : Nat) : Nat.ofDigitChars 10 (toString n).toList 0 = n := by
    rw [show toString n = n.repr from rfl, Nat.repr_eq_ofList_toDigits, String.toList_ofList]
    apply Nat.ofDigitChars_toDigits <;> omega
  rw [position?, List.find?_range_eq_some]
  refine ⟨beq_self_eq_true _, List.mem_range.mpr h, fun j hj => ?_⟩
  have different : toString j ≠ toString i := by
    intro same
    have equal := value j
    rw [same, value i] at equal
    omega
  simpa using different

namespace Json

/-- What a container holds at a part of a path. -/
def part? (container : Json) (part : String) : Option Json :=
  match container with
  | .object fields => lookup part fields
  | .list items => (position? part items.length).bind fun i => items[i]?
  | _ => none

/-- A container with another value at a part of a path that is there. -/
def setPart (container : Json) (part : String) (value : Json) : Json :=
  match container with
  | .object fields => .object (enter part value fields)
  | .list items => .list (items.set ((position? part items.length).getD items.length) value)
  | other => other

/-- A container with a value added at a part of a path; in a list the items from there on move up, and
a hyphen stands for the end. -/
def addPart? (container : Json) (part : String) (value : Json) : Option Json :=
  match container with
  | .object fields => some (.object (enter part value fields))
  | .list items =>
    ((position? part (items.length + 1)).or (if part = "-" then some items.length else none)).map fun i =>
      .list (items.insertIdx i value)
  | _ => none

/-- A container without what it holds at a part of a path; in a list the items after it move down. -/
def removePart? (container : Json) (part : String) : Option Json :=
  match container with
  | .object fields => (lookup part fields).map fun _ => .object (fields.filter fun field => field.1 ≠ part)
  | .list items => (position? part items.length).map fun i => .list (items.eraseIdx i)
  | _ => none

theorem part?_setPart {part : String} {container old : Json} (held : container.part? part = some old) (value : Json) :
  (container.setPart part value).part? part = some value
  := by
  cases container with
  | object fields => rw [setPart, part?, lookup_enter, if_pos rfl]
  | list items =>
    obtain ⟨i, hi, ho⟩ := Option.bind_eq_some_iff.mp held
    obtain ⟨bound, -⟩ := List.getElem?_eq_some_iff.mp ho
    rw [setPart, part?, List.length_set, hi, Option.bind_some, Option.getD_some, List.getElem?_set_self bound]
  | _ => cases held

theorem setPart_setPart (container : Json) (part : String) (first second : Json) :
  (container.setPart part first).setPart part second = container.setPart part second
  := by
  cases container with
  | object fields => rw [setPart, setPart, setPart, enter_enter]
  | list items => rw [setPart, setPart, setPart, List.length_set, List.set_set]
  | _ => rfl

theorem setPart_self {part : String} {container old : Json} (held : container.part? part = some old) :
  container.setPart part old = container
  := by
  cases container with
  | object fields => rw [setPart, enter_self held]
  | list items =>
    obtain ⟨i, hi, ho⟩ := Option.bind_eq_some_iff.mp held
    obtain ⟨bound, rfl⟩ := List.getElem?_eq_some_iff.mp ho
    rw [setPart, hi, Option.getD_some, List.set_getElem_self]
  | _ => cases held

/-! ### Items of a list -/

theorem part?_item (before : List Json) (item : Json) (after : List Json) :
  (list (before ++ item :: after)).part? (toString before.length) = some item
  := by
  rw [part?, position?_toString (by simp), Option.bind_some, List.getElem?_append_right (Nat.le_refl _)]
  simp

theorem setPart_item (before : List Json) (item : Json) (after : List Json) (value : Json) :
  (list (before ++ item :: after)).setPart (toString before.length) value = .list (before ++ value :: after)
  := by
  rw [setPart, position?_toString (by simp), Option.getD_some, List.set_append_right _ _ (Nat.le_refl _)]
  simp

theorem addPart?_end (items : List Json) (value : Json) :
  (list items).addPart? (toString items.length) value = some (.list (items ++ [value]))
  := by
  rw [addPart?, position?_toString (Nat.lt_succ_self _), Option.some_or, Option.map_some, List.insertIdx_length_self]

theorem removePart?_last (items : List Json) (item : Json) :
  (list (items ++ [item])).removePart? (toString items.length) = some (.list items)
  := by
  rw [removePart?, position?_toString (by simp), Option.map_some, List.eraseIdx_append_of_length_le (Nat.le_refl _)]
  simp

end Json

namespace PatchStep

/-- Carry out a step at a place, given the path that leads there. -/
def applyAt (step : PatchStep) : List String → Json → Option Json
  | [], _ =>
    match step with
    | .add _ value | .replace _ value => some value
    | .remove _ => none
  | [part], container =>
    match step with
    | .add _ value => container.addPart? part value
    | .remove _ => container.removePart? part
    | .replace _ value => (container.part? part).map fun _ => container.setPart part value
  | part :: next :: path, container => do
    let value ← container.part? part
    let value ← step.applyAt (next :: path) value
    return container.setPart part value

/-- Carry out a step at the place that its pointer tells. -/
def apply (step : PatchStep) (document : Json) : Option Json := do
  let path ← pathOf? (pointer step.path)
  step.applyAt path document

/-- A step further inside. -/
def within (outer : List String) : PatchStep → PatchStep
  | .add path value => .add (outer ++ path) value
  | .remove path => .remove (outer ++ path)
  | .replace path value => .replace (outer ++ path) value

/-- A step does not add or remove a value as a whole. -/
def IsInner (step : PatchStep) : Prop := step.path = [] → ∃ value, step = .replace [] value

end PatchStep

/-- Carry out the steps of a patch in order. -/
def Patch.apply (patch : Patch) (document : Json) : Option Json :=
  patch.foldlM (fun document step => step.apply document) document

namespace PatchStep

theorem apply_eq (step : PatchStep) (document : Json) :
  step.apply document = step.applyAt step.path document
  := by
  rw [apply, pathOf?_pointer]
  rfl

@[simp]
theorem path_within (outer : List String) (step : PatchStep) :
  (step.within outer).path = outer ++ step.path
  := by
  cases step <;> rfl

theorem applyAt_within (outer : List String) (step : PatchStep) :
  (step.within outer).applyAt = step.applyAt
  := by
  funext path document
  induction path generalizing document with
  | nil => cases step <;> rfl
  | cons part path ih =>
    cases path with
    | nil => cases step <;> rfl
    | cons next path =>
      rw [applyAt, applyAt]
      simp only [ih]

/-- A step inside a part of a container is the step on what the container holds there. -/
theorem apply_within {step : PatchStep} (inner : step.IsInner) {part : String} {container old result : Json}
    (held : container.part? part = some old) (applied : step.apply old = some result) :
  (step.within [part]).apply container = some (container.setPart part result)
  := by
  rw [apply_eq] at applied ⊢
  rw [path_within, applyAt_within, List.singleton_append]
  cases hp : step.path with
  | nil =>
    obtain ⟨value, rfl⟩ := inner hp
    obtain rfl := Option.some.inj applied
    rw [applyAt, held]
    rfl
  | cons next path =>
    rw [hp] at applied
    rw [applyAt, held]
    simp [applied]

end PatchStep

namespace Patch

theorem apply_nil (document : Json) :
  apply [] document = some document
  := rfl

theorem apply_cons (step : PatchStep) (patch : Patch) (document : Json) :
  apply (step :: patch) document = (step.apply document).bind patch.apply
  := rfl

theorem apply_append (first second : Patch) (document : Json) :
  apply (first ++ second) document = (first.apply document).bind second.apply
  := List.foldlM_append

/-- A patch inside a part of a container is the patch on what the container holds there. -/
theorem apply_within {patch : Patch} (inner : ∀ step ∈ patch, step.IsInner) {part : String}
    {container old result : Json} (held : container.part? part = some old) (applied : patch.apply old = some result) :
  apply (patch.map (·.within [part])) container = some (container.setPart part result)
  := by
  induction patch generalizing container old with
  | nil =>
    obtain rfl := Option.some.inj applied
    rw [List.map_nil, apply_nil, Json.setPart_self held]
  | cons step patch ih =>
    rw [List.forall_mem_cons] at inner
    rw [apply_cons] at applied
    obtain ⟨middle, here, there⟩ := Option.bind_eq_some_iff.mp applied
    rw [List.map_cons, apply_cons, PatchStep.apply_within inner.1 held here, Option.bind_some,
      ih inner.2 (Json.part?_setPart held middle) there, Json.setPart_setPart]

end Patch

/-! ### The difference at a place -/

namespace Json

theorem addedFields_append (outer path : List String) (fields fields' : List (String × Json)) :
  addedFields (outer ++ path) fields fields' = (addedFields path fields fields').map (·.within outer)
  := by
  simp [addedFields, PatchStep.within]

theorem addedItems_append (outer path : List String) (index : Nat) (items : List Json) :
  addedItems (outer ++ path) index items = (addedItems path index items).map (·.within outer)
  := by
  induction items generalizing index with
  | nil => rfl
  | cons item rest ih => simp [addedItems, PatchStep.within, ih]

theorem removedItems_append (outer path : List String) (index count : Nat) :
  removedItems (outer ++ path) index count = (removedItems path index count).map (·.within outer)
  := by
  simp [removedItems, PatchStep.within, Function.comp_def]

mutual

/-- The difference of two values at a place further inside. -/
theorem diffAt_append (outer path : List String) (old new : Json) :
  diffAt (outer ++ path) old new = (diffAt path old new).map (·.within outer)
  := by
  rw [diffAt.eq_def, diffAt.eq_def path]
  split
  · rw [diffFields_append, addedFields_append, List.map_append]
  · rw [diffItems_append]
  · split <;> rfl

theorem diffFields_append (outer path : List String) (rest fields' : List (String × Json)) :
  diffFields (outer ++ path) rest fields' = (diffFields path rest fields').map (·.within outer)
  := by
  match rest with
  | [] => simp [diffFields]
  | (key, value) :: rest =>
    rw [diffFields, diffFields, List.map_append, diffFields_append]
    congr 1
    cases lookup key fields' with
    | none => simp [PatchStep.within]
    | some value' =>
      dsimp only
      rw [List.append_assoc, diffAt_append]

theorem diffItems_append (outer path : List String) (index : Nat) (items items' : List Json) :
  diffItems (outer ++ path) index items items' = (diffItems path index items items').map (·.within outer)
  := by
  match items, items' with
  | [], items' => rw [diffItems, diffItems, addedItems_append]
  | item :: rest, [] => simp [diffItems, removedItems_append]
  | item :: rest, item' :: rest' =>
    rw [diffItems, diffItems, List.map_append, diffItems_append, List.append_assoc, diffAt_append]

end

theorem diffAt_part (part : String) (old new : Json) :
  diffAt ([] ++ [part]) old new = (old.diff new).map (·.within [part])
  := diffAt_append [part] [] old new

theorem isInner_of_ne_nil {step : PatchStep} (h : step.path ≠ []) :
  step.IsInner
  := fun hp => absurd hp h

theorem isInner_within (part : String) (step : PatchStep) :
  (step.within [part]).IsInner
  := by
  apply isInner_of_ne_nil
  simp

theorem isInner_diffFields (rest fields' : List (String × Json)) :
  ∀ step ∈ diffFields [] rest fields', step.IsInner
  := by
  induction rest with
  | nil => simp [diffFields]
  | cons field rest ih =>
    obtain ⟨key, value⟩ := field
    rw [diffFields, List.forall_mem_append]
    refine ⟨?_, ih⟩
    cases lookup key fields' with
    | none => exact List.forall_mem_singleton.mpr (isInner_of_ne_nil (List.cons_ne_nil _ _))
    | some value' =>
      dsimp only
      rw [diffAt_part, List.forall_mem_map]
      exact fun step _ => isInner_within key step

theorem isInner_diffItems (index : Nat) (items items' : List Json) :
  ∀ step ∈ diffItems [] index items items', step.IsInner
  := by
  induction items generalizing index items' with
  | nil =>
    induction items' generalizing index with
    | nil => simp [diffItems, addedItems]
    | cons item' rest' ih =>
      rw [diffItems, addedItems, List.forall_mem_cons]
      exact ⟨isInner_of_ne_nil (List.cons_ne_nil _ _), by simpa [diffItems] using ih (index + 1)⟩
  | cons item rest ih =>
    cases items' with
    | nil =>
      intro step hs
      simp only [diffItems, removedItems, List.mem_reverse, List.mem_map] at hs
      obtain ⟨offset, -, rfl⟩ := hs
      exact isInner_of_ne_nil (List.cons_ne_nil _ _)
    | cons item' rest' =>
      rw [diffItems, List.forall_mem_append, diffAt_part, List.forall_mem_map]
      exact ⟨fun step _ => isInner_within _ step, ih (index + 1) rest'⟩

/-- A difference changes a value as a whole by replacing it. -/
theorem isInner_diff (old new : Json) :
  ∀ step ∈ old.diff new, step.IsInner
  := by
  rw [diff, diffAt.eq_def]
  split
  · next fields fields' =>
    rw [List.forall_mem_append]
    refine ⟨isInner_diffFields fields fields', ?_⟩
    unfold addedFields
    rw [List.forall_mem_map]
    exact fun field _ => isInner_of_ne_nil (List.cons_ne_nil _ _)
  · exact isInner_diffItems 0 _ _
  · split
    · exact List.forall_mem_nil _
    · exact List.forall_mem_singleton.mpr fun _ => ⟨_, rfl⟩

end Json

/-! ### Carrying out a difference -/

/-- A patch applies to a value and gives one that is alike to another. -/
def Patch.TurnsInto (patch : Patch) (old new : Json) : Prop :=
  ∃ result, patch.apply old = some result ∧ result.Alike (fun m n => m.same n) new

namespace Json

/-- The fields of an object after a part of a patch: those with some names are alike to those of the
object that is aimed at, the others are as before. -/
structure Patched (names : List String) (before after fields' : List (String × Json)) : Prop where
  nodup : (before.map (·.1)).Nodup → (after.map (·.1)).Nodup
  done : ∀ name ∈ names, Option.Rel (Alike fun m n => m.same n) (lookup name after) (lookup name fields')
  kept : ∀ name ∉ names, lookup name after = lookup name before

theorem Patched.refl (fields fields' : List (String × Json)) :
  Patched [] fields fields fields'
  := ⟨id, fun _ hn => absurd hn List.not_mem_nil, fun _ _ => rfl⟩

theorem Patched.cons {key : String} {names : List String} {before middle after fields' : List (String × Json)}
    (first : Patched [key] before middle fields') (others : Patched names middle after fields') (new : key ∉ names) :
  Patched (key :: names) before after fields'
  := by
  constructor
  · exact fun nodup => others.nodup (first.nodup nodup)
  · rw [List.forall_mem_cons]
    refine ⟨?_, others.done⟩
    rw [others.kept key new]
    exact first.done key List.mem_cons_self
  · intro name hn
    rw [List.mem_cons, not_or] at hn
    rw [others.kept name hn.2]
    apply first.kept
    simpa using hn.1

theorem patched_enter {key : String} {value value' : Json} {fields' : List (String × Json)}
    (alike : value.Alike (fun m n => m.same n) value') (h : lookup key fields' = some value')
    (before : List (String × Json)) :
  Patched [key] before (enter key value before) fields'
  := by
  constructor
  · exact nodup_enter key value
  · rw [List.forall_mem_singleton, lookup_enter, if_pos rfl, h]
    exact .some alike
  · intro name hn
    rw [lookup_enter, if_neg (by simpa using hn)]

theorem patched_filter {key : String} {fields' : List (String × Json)} (h : lookup key fields' = none)
    (before : List (String × Json)) :
  Patched [key] before (before.filter fun field => field.1 ≠ key) fields'
  := by
  have found (name : String) := lookup_filter (fun name => decide (name ≠ key)) name before
  constructor
  · exact fun nodup => nodup.sublist (List.filter_sublist.map _)
  · rw [List.forall_mem_singleton, found, h]
    simp
  · intro name hn
    rw [found, if_pos (by simpa using hn)]

/-- The fields of the first of two objects are patched one after the other. -/
theorem apply_diffFields {rest current fields' : List (String × Json)} (nodup : (rest.map (·.1)).Nodup)
    (held : ∀ field ∈ rest, lookup field.1 current = some field.2)
    (turns : ∀ field ∈ rest, ∀ value', lookup field.1 fields' = some value' →
      (field.2.diff value').TurnsInto field.2 value') :
  ∃ after, Patch.apply (diffFields [] rest fields') (.object current) = some (.object after)
    ∧ Patched (rest.map (·.1)) current after fields'
  := by
  induction rest generalizing current with
  | nil => exact ⟨current, by rw [diffFields, Patch.apply_nil], Patched.refl current fields'⟩
  | cons field rest ih =>
    obtain ⟨key, value⟩ := field
    rw [List.forall_mem_cons] at held turns
    rw [List.map_cons, List.nodup_cons] at nodup
    have first : ∃ patch middle, diffFields [] ((key, value) :: rest) fields' = patch ++ diffFields [] rest fields'
        ∧ Patch.apply patch (.object current) = some (.object middle) ∧ Patched [key] current middle fields' := by
      rw [diffFields]
      cases hv' : lookup key fields' with
      | none =>
        refine ⟨_, _, rfl, ?_, patched_filter hv' current⟩
        rw [Patch.apply_cons, PatchStep.apply_eq]
        simp [PatchStep.path, PatchStep.applyAt, removePart?, held.1, Patch.apply_nil]
      | some value' =>
        obtain ⟨result, applied, alike⟩ := turns.1 value' hv'
        refine ⟨_, _, rfl, ?_, patched_enter alike hv' current⟩
        dsimp only
        rw [diffAt_part]
        exact Patch.apply_within (isInner_diff value value') held.1 applied
    obtain ⟨patch, middle, split, here, patched⟩ := first
    -- The other fields are still as they were, so the patch goes on as it began.
    have held' : ∀ field ∈ rest, lookup field.1 middle = some field.2 := by
      intro field hf
      rw [patched.kept, held.2 field hf]
      rw [List.mem_singleton]
      rintro rfl
      exact nodup.1 (List.mem_map.mpr ⟨field, hf, rfl⟩)
    obtain ⟨after, there, patched'⟩ := ih nodup.2 held' turns.2
    refine ⟨after, ?_, patched.cons patched' nodup.1⟩
    rw [split, Patch.apply_append, here, Option.bind_some, there]

/-- Fields are added one after the other. -/
theorem apply_added (added current : List (String × Json)) :
  Patch.apply (added.map fun field => .add ([] ++ [field.1]) field.2) (.object current)
    = some (.object (added.foldl (fun entries pair => enter pair.1 pair.2 entries) current))
  := by
  induction added generalizing current with
  | nil => rfl
  | cons field added ih =>
    rw [List.map_cons, Patch.apply_cons, PatchStep.apply_eq]
    exact ih (enter field.1 field.2 current)

/-- Objects are patched field by field, and get the fields that they lack. -/
theorem turnsInto_object {fields fields' : List (String × Json)} (nodup : (fields.map (·.1)).Nodup)
    (distinct' : (object fields').Distinct)
    (turns : ∀ field ∈ fields, ∀ value', lookup field.1 fields' = some value' →
      (field.2.diff value').TurnsInto field.2 value') :
  ((object fields).diff (object fields')).TurnsInto (object fields) (object fields')
  := by
  cases distinct' with
  | object nodup' fields_distinct' =>
    obtain ⟨after, applied, patched⟩ := apply_diffFields nodup (fun field hf => lookup_of_mem nodup hf) turns
    set added := fields'.filter fun field => (lookup field.1 fields).isNone with hadded
    have fresh (name : String) (hn : name ∈ added.map (·.1)) : lookup name after = none := by
      obtain ⟨field, hf, rfl⟩ := List.mem_map.mp hn
      have absent := Option.isNone_iff_eq_none.mp (List.mem_filter.mp hf).2
      rw [patched.kept, absent]
      rw [← lookup_isSome_iff, absent]
      exact Bool.false_ne_true
    -- No field of the first object has the name of one that is added, so the new fields come last.
    have nodup_after : ((after ++ added).map (·.1)).Nodup := by
      rw [List.map_append, List.nodup_append]
      refine ⟨patched.nodup nodup, nodup'.sublist (List.filter_sublist.map _), ?_⟩
      rintro name hn _ hn' rfl
      rw [← lookup_isSome_iff, fresh name hn'] at hn
      cases hn
    refine ⟨.object (after ++ added), ?_, ?_⟩
    · rw [diff, diffAt, Patch.apply_append, applied, Option.bind_some, addedFields, apply_added,
        foldl_enter_of_nodup added after nodup_after]
    · rw [alike_object_iff nodup_after nodup']
      intro name
      have found : lookup name added = if (lookup name fields).isNone then lookup name fields' else none :=
        lookup_filter (fun name => (lookup name fields).isNone) name fields'
      rw [lookup_append, found]
      by_cases old : name ∈ fields.map (·.1)
      · have present := (lookup_isSome_iff name fields).mpr old
        rw [if_neg (by simpa using Option.isSome_iff_ne_none.mp present), Option.or_none]
        exact patched.done name old
      · have absent := Option.not_isSome_iff_eq_none.mp (mt (lookup_isSome_iff name fields).mp old)
        rw [patched.kept name old, absent, Option.none_or, if_pos Option.isNone_none]
        cases hv' : lookup name fields' with
        | none => exact .none
        | some value' => exact .some ((fields_distinct' _ (mem_of_lookup hv')).alike_self Number.same_self)

/-- Items are added one after the other at the end. -/
theorem apply_addedItems (items added : List Json) :
  Patch.apply (addedItems [] items.length added) (.list items) = some (.list (items ++ added))
  := by
  induction added generalizing items with
  | nil => rw [addedItems, Patch.apply_nil, List.append_nil]
  | cons item added ih =>
    have here : PatchStep.apply (.add ([] ++ [toString items.length]) item) (.list items)
        = some (.list (items ++ [item])) := by
      rw [PatchStep.apply_eq]
      exact addPart?_end items item
    have there := ih (items ++ [item])
    rw [List.length_append, List.length_singleton, List.append_assoc, List.singleton_append] at there
    rw [addedItems, Patch.apply_cons, here, Option.bind_some, there]

/-- Items are removed one after the other from the end. -/
theorem apply_removedItems (items removed : List Json) :
  Patch.apply (removedItems [] items.length removed.length) (.list (items ++ removed)) = some (.list items)
  := by
  induction removed using List.reverseRecOn with
  | nil => rw [List.append_nil]; rfl
  | append_singleton removed item ih =>
    have here : PatchStep.apply (.remove ([] ++ [toString (items.length + removed.length)]))
        (.list (items ++ (removed ++ [item]))) = some (.list (items ++ removed)) := by
      rw [PatchStep.apply_eq, ← List.append_assoc, ← List.length_append]
      exact removePart?_last (items ++ removed) item
    have first : removedItems [] items.length (removed ++ [item]).length
        = .remove ([] ++ [toString (items.length + removed.length)])
          :: removedItems [] items.length removed.length := by
      simp [removedItems, List.range_succ]
    rw [first, Patch.apply_cons, here, Option.bind_some, ih]

/-- The items of the first of two lists are patched one after the other, where some are done already; then items
are removed or added at the end. -/
theorem apply_diffItems (done : List Json) {items items' : List Json} (distinct' : ∀ item' ∈ items', item'.Distinct)
    (turns : ∀ item ∈ items, ∀ item' ∈ items', (item.diff item').TurnsInto item item') :
  ∃ after, Patch.apply (diffItems [] done.length items items') (.list (done ++ items)) = some (.list (done ++ after))
    ∧ List.Forall₂ (Alike fun m n => m.same n) after items'
  := by
  induction items generalizing done items' with
  | nil =>
    refine ⟨items', ?_, List.forall₂_same.mpr fun item' hi' => (distinct' item' hi').alike_self Number.same_self⟩
    rw [diffItems, List.append_nil, apply_addedItems]
  | cons item rest ih =>
    cases items' with
    | nil =>
      refine ⟨[], ?_, .nil⟩
      rw [List.append_nil, ← apply_removedItems done (item :: rest)]
      simp [diffItems]
    | cons item' rest' =>
      obtain ⟨result, applied, alike⟩ := turns item List.mem_cons_self item' List.mem_cons_self
      have here : Patch.apply (diffAt ([] ++ [toString done.length]) item item') (.list (done ++ item :: rest))
          = some (.list (done ++ result :: rest)) := by
        rw [diffAt_part, Patch.apply_within (isInner_diff item item') (part?_item done item rest) applied, setPart_item]
      have turns' : ∀ item ∈ rest, ∀ item' ∈ rest', (item.diff item').TurnsInto item item' :=
        fun item hi item' hi' => turns item (List.mem_cons_of_mem _ hi) item' (List.mem_cons_of_mem _ hi')
      obtain ⟨after, there, alike'⟩ := ih (done ++ [result])
        (fun item' hi' => distinct' item' (List.mem_cons_of_mem _ hi')) turns'
      refine ⟨result :: after, ?_, .cons alike alike'⟩
      simp only [List.length_append, List.length_singleton, List.append_assoc, List.singleton_append] at there
      rw [diffItems, Patch.apply_append, here, Option.bind_some, there]

/-- Lists are patched item by item. -/
theorem turnsInto_list {items items' : List Json} (distinct' : (list items').Distinct)
    (turns : ∀ item ∈ items, ∀ item' ∈ items', (item.diff item').TurnsInto item item') :
  ((list items).diff (list items')).TurnsInto (list items) (list items')
  := by
  cases distinct' with
  | list items_distinct' =>
    obtain ⟨after, applied, alike⟩ := apply_diffItems [] items_distinct' turns
    refine ⟨.list after, ?_, alike_list_iff.mpr alike⟩
    rw [diff, diffAt]
    exact applied

/-- Where two values are not containers of one kind, the second replaces the first unless they are equal. -/
theorem turnsInto_whole {old new : Json} (distinct : old.Distinct) (distinct' : new.Distinct)
    (objects : ∀ fields fields', old = .object fields → new = .object fields' → False)
    (lists : ∀ items items', old = .list items → new = .list items' → False) :
  (old.diff new).TurnsInto old new
  := by
  rw [diff, diffAt.eq_3 [] old new objects lists]
  split
  · next equal => exact ⟨old, rfl, distinct.alike_of_same distinct' equal⟩
  · exact ⟨new, rfl, distinct'.alike_self Number.same_self⟩

/-- The difference of two values turns the first into the second. -/
theorem Distinct.turnsInto {old new : Json} (distinct : old.Distinct) (distinct' : new.Distinct) :
  (old.diff new).TurnsInto old new
  := by
  induction distinct generalizing new with
  | null | bool | number | string => exact turnsInto_whole (.of_isScalar rfl) distinct' nofun nofun
  | @list items items_distinct ih =>
    by_cases both : ∃ items', new = .list items'
    · obtain ⟨items', rfl⟩ := both
      apply turnsInto_list distinct'
      cases distinct' with
      | list items_distinct' => exact fun item hi item' hi' => ih item hi (items_distinct' item' hi')
    · exact turnsInto_whole (.list items_distinct) distinct' nofun fun _ items' _ h => both ⟨items', h⟩
  | @object fields nodup fields_distinct ih =>
    by_cases both : ∃ fields', new = .object fields'
    · obtain ⟨fields', rfl⟩ := both
      apply turnsInto_object nodup distinct'
      cases distinct' with
      | object nodup' fields_distinct' =>
        exact fun field hf value' hv' => ih field hf (fields_distinct' _ (mem_of_lookup hv'))
    · exact turnsInto_whole (.object nodup fields_distinct) distinct' (fun _ fields' _ h => both ⟨fields', h⟩) nofun

/-- The difference of two values applies to the first, step by step, and gives a value that is equal to the
second up to the order of fields.  It is empty just when the values are equal already. -/
theorem apply_diff {old new : Json} (distinct : old.Distinct) (distinct' : new.Distinct) :
  (∃ result, (old.diff new).apply old = some result ∧ result.Alike (fun m n => m.same n) new)
    ∧ (old.diff new = [] ↔ old.Alike (fun m n => m.same n) new)
  := by
  refine ⟨distinct.turnsInto distinct', fun empty => ?_, fun alike => alike.diffAt_eq_nil distinct []⟩
  -- A patch without steps leaves the value as it is.
  obtain ⟨result, applied, alike⟩ := distinct.turnsInto distinct'
  rw [empty, Patch.apply_nil] at applied
  obtain rfl := Option.some.inj applied
  exact alike

/-- An object with names that are escaped in pointers or look like numbers. -/
def draft : Json := .object [
  ("a~b/c", .list [.int 1, .object [("x", .null), ("~1", .string "old")], .int 3, .int 4]),
  ("0", .number (.real (.zero false))),
  ("tags", .list [.string "p"]),
  ("gone/", .bool true)]

/-- The same object after changes: one of its lists is shorter, the other longer, and zero has another sign. -/
def revision : Json := .object [
  ("tags", .list [.string "p", .list [], .string "r"]),
  ("added", .object []),
  ("0", .number (.real (.zero true))),
  ("a~b/c", .list [.number (.real ⟨false, Nat.pow 2 52, -52⟩), .object [("~1", .string "new")]])]

/-- The changes of `draft` are found, and carried out they give `revision`. -/
theorem apply_diff_draft :
  draft.Distinct ∧ revision.Distinct
    ∧ (draft.diff revision).map (fun step => pointer step.path)
      = ["/a~0b~1c/0", "/a~0b~1c/1/x", "/a~0b~1c/1/~01", "/a~0b~1c/3", "/a~0b~1c/2", "/tags/1", "/tags/2", "/gone~1",
        "/added"]
    ∧ ∃ result, (draft.diff revision).apply draft = some result ∧ result.Alike (fun m n => m.same n) revision
  := by
  have distinct : draft.Distinct := by decide
  have distinct' : revision.Distinct := by decide
  exact ⟨distinct, distinct', by decide +kernel, (apply_diff distinct distinct').1⟩

end Json

end Reconcile
