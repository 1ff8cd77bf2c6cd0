import Mathlib.Tactic.Common
import Reconcile.Patch
import Reconcile.Proofs.Expression.Placeholders

/-!
# Pointers

A pointer is a path as a text.  It is read back by splitting it at its slashes and undoing the escapes
of every part.  What is read is the path that was written, whatever characters its parts hold.
-/

namespace Reconcile

/-! ### Replacing a character -/

namespace Text

/-- To write something else between the parts of a text at a character is to write it for the character. -/
theorem intercalate_splitOn (replacement : List Char) (c : Char) (text : List Char) :
  replacement.intercalate (splitOn [c] text) = text.flatMap fun d => if d = c then replacement else [d]
  := by
  rw [splitOn_singleton]
  induction text with
  | nil => rfl
  | cons d rest ih =>
    obtain ⟨part, parts, hp⟩ := List.exists_cons_of_ne_nil (List.splitOn_ne_nil c rest)
    rw [List.flatMap_cons, ← ih, List.splitOn_eq_splitOnP, List.splitOnP_cons_eq_if_modifyHead,
      ← List.splitOn_eq_splitOnP, hp]
    by_cases hd : d = c
    · rw [if_pos (beq_iff_eq.mpr hd), if_pos hd, List.intercalate_cons_cons, List.nil_append]
    · rw [if_neg (by simpa using hd), if_neg hd, List.modifyHead_cons]
      cases parts with
      | nil => rfl
      | cons next parts =>
        rw [List.intercalate_cons_cons, List.intercalate_cons_cons]
        rfl

/-- To replace a text of one character is to replace the character everywhere. -/
theorem toList_replace {pattern : String} {c : Char} (h : pattern.toList = [c]) (replacement text : String) :
  (replace pattern replacement text).toList
    = text.toList.flatMap fun d => if d = c then replacement.toList else [d]
  := by
  have parts : (split pattern text).map String.toList = splitOn [c] text.toList := by
    rw [split, h, List.map_map]
    exact List.map_id'' (fun part => String.toList_ofList) _
  rw [replace, String.toList_intercalate, parts, intercalate_splitOn]

end Text

/-! ### Escapes -/

/-- The characters that stand for a character in a part of a pointer. -/
def pointerChar (c : Char) : List Char :=
  if c = '~' then ['~', '0'] else if c = '/' then ['~', '1'] else [c]

/-- Undo the escapes of a part of a pointer; nothing when there is another character after a tilde. -/
def unescaped? : List Char → Option (List Char)
  | [] => some []
  | '~' :: '0' :: rest => (unescaped? rest).map ('~' :: ·)
  | '~' :: '1' :: rest => (unescaped? rest).map ('/' :: ·)
  | '~' :: _ => none
  | c :: rest => (unescaped? rest).map (c :: ·)

theorem unescaped?_flatMap_pointerChar (part : List Char) :
  unescaped? (part.flatMap pointerChar) = some part
  := by
  induction part with
  | nil => rfl
  | cons c rest ih =>
    rw [List.flatMap_cons]
    by_cases tilde : c = '~'
    · subst tilde
      simp [pointerChar, unescaped?, ih]
    · by_cases slash : c = '/'
      · subst slash
        simp [pointerChar, unescaped?, ih]
      · rw [pointerChar, if_neg tilde, if_neg slash, List.cons_append, List.nil_append, unescaped?.eq_5, ih]
        · rfl
        · intro rest' h
          simp [tilde] at h
        · intro rest' h
          simp [tilde] at h
        · intro h
          exact tilde h

theorem slash_not_mem_flatMap_pointerChar (part : List Char) :
  '/' ∉ part.flatMap pointerChar
  := by
  rw [List.mem_flatMap]
  rintro ⟨c, -, hc⟩
  unfold pointerChar at hc
  split at hc
  · simp at hc
  · split at hc
    · simp at hc
    · next slash => exact slash (List.mem_singleton.mp hc).symm

/-! ### Paths -/

/-- The path that a pointer writes, if it is one: nothing, or parts with a slash before each. -/
def pathOf? (text : String) : Option (List String) :=
  match text.toList with
  | [] => some []
  | '/' :: rest => (rest.splitOn '/').mapM fun part => (unescaped? part).map String.ofList
  | _ => none

theorem toList_pointer (path : List String) :
  (pointer path).toList = path.flatMap fun part => '/' :: part.toList.flatMap pointerChar
  := by
  rw [pointer, String.toList_join, List.flatMap_map]
  apply List.flatMap_congr
  intro part _
  rw [String.toList_append, Text.toList_replace (c := '/') rfl, Text.toList_replace (c := '~') rfl, List.flatMap_assoc]
  apply congrArg ('/' :: ·)
  apply List.flatMap_congr
  intro c _
  unfold pointerChar
  split
  · rfl
  · simp

/-- The parts of a path that is not empty stand between the slashes of its pointer after the first one. -/
theorem toList_pointer_cons (part : String) (path : List String) :
  (pointer (part :: path)).toList
    = '/' :: ['/'].intercalate ((part :: path).map fun part => part.toList.flatMap pointerChar)
  := by
  rw [toList_pointer]
  induction path generalizing part with
  | nil => simp
  | cons next path ih =>
    rw [List.flatMap_cons, ih next, List.map_cons, List.map_cons, List.map_cons, List.intercalate_cons_cons]
    simp

/-- A path is read back from its pointer. -/
theorem pathOf?_pointer (path : List String) :
  pathOf? (pointer path) = some path
  := by
  cases path with
  | nil => rfl
  | cons part path =>
    have split : (['/'].intercalate ((part :: path).map fun part => part.toList.flatMap pointerChar)).splitOn '/'
        = (part :: path).map fun part => part.toList.flatMap pointerChar := by
      apply List.splitOn_intercalate
      · intro text ht
        obtain ⟨part, -, rfl⟩ := List.mem_map.mp ht
        exact slash_not_mem_flatMap_pointerChar _
      · exact List.cons_ne_nil _ _
    have each (parts : List String) :
        (parts.map fun part => part.toList.flatMap pointerChar).mapM
          (fun part => (unescaped? part).map String.ofList) = some parts := by
      induction parts with
      | nil => rfl
      | cons part parts ih => simp [ih, unescaped?_flatMap_pointerChar]
    simp only [pathOf?, toList_pointer_cons]
    rw [split, each]

end Reconcile
