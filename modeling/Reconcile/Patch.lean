import Reconcile.Json.Printer
import Reconcile.Text.Scan

/-!
# Patches

A patch is a list of steps that turn one value into another, each at a place that a path of
field names and item numbers describes.  The difference of two values is the patch that
follows their common structure: fields and items that both have are compared, what only the
first has is removed, and what only the second has is added.
-/

namespace Reconcile

/-- A step of a patch. -/
inductive PatchStep where
  | add (path : List String) (value : Json)
  | remove (path : List String)
  | replace (path : List String) (value : Json)
  deriving Repr, Inhabited

/-- The steps of a patch in order. -/
abbrev Patch := List PatchStep

/-- A path as a text: every part after a slash, with `~` and `/` escaped in it. -/
def pointer (path : List String) : String :=
  String.join <| path.map fun part => "/" ++ Text.replace "/" "~1" (Text.replace "~" "~0" part)

namespace PatchStep

/-- The path of the place that a step changes. -/
def path : PatchStep → List String
  | .add path _ | .remove path | .replace path _ => path

/-- The written form of a step. -/
def toJson : PatchStep → Json
  | .add path value => .object [("op", .string "add"), ("path", .string (pointer path)), ("value", value)]
  | .remove path => .object [("op", .string "remove"), ("path", .string (pointer path))]
  | .replace path value =>
    .object [("op", .string "replace"), ("path", .string (pointer path)), ("value", value)]

end PatchStep

namespace Json

/-- The fields that only the second of two objects has, as additions. -/
def addedFields (path : List String) (old new : List (String × Json)) : Patch :=
  (new.filter fun field => (lookup field.1 old).isNone).map fun field => .add (path ++ [field.1]) field.2

/-- The items of a list from a number on, as additions. -/
def addedItems (path : List String) : Nat → List Json → Patch
  | _, [] => []
  | index, item :: rest => .add (path ++ [toString index]) item :: addedItems path (index + 1) rest

/-- The removal of some items of a list from a number on, the last one first. -/
def removedItems (path : List String) (index count : Nat) : Patch :=
  ((List.range count).map fun offset => PatchStep.remove (path ++ [toString (index + offset)])).reverse

mutual

/-- The difference of two values at a place. -/
def diffAt (path : List String) (old new : Json) : Patch :=
  match old, new with
  | .object fields, .object fields' => diffFields path fields fields' ++ addedFields path fields fields'
  | .list items, .list items' => diffItems path 0 items items'
  | old, new => if old.same new then [] else [.replace path new]

/-- The differences at the fields of the first of two objects. -/
def diffFields (path : List String) : List (String × Json) → List (String × Json) → Patch
  | [], _ => []
  | (key, value) :: rest, fields =>
    (match lookup key fields with
      | some value' => diffAt (path ++ [key]) value value'
      | none => [.remove (path ++ [key])])
      ++ diffFields path rest fields

/-- The differences of two lists from an item number on. -/
def diffItems (path : List String) (index : Nat) : List Json → List Json → Patch
  | item :: rest, item' :: rest' =>
    diffAt (path ++ [toString index]) item item' ++ diffItems path (index + 1) rest rest'
  | [], items' => addedItems path index items'
  | items, [] => removedItems path index items.length

end

/-- The patch that turns one value into another. -/
def diff (old new : Json) : Patch := diffAt [] old new

end Json

end Reconcile
