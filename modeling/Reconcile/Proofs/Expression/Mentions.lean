import Mathlib.Data.List.Forall2
import Reconcile.Proofs.Expression.Placeholders

/-!
# Mentions of a text with placeholders

The evaluation of a text and the search for its references each go through it on their own.  The search finds the
placeholders of the evaluation in the same order, save those whose names begin with an exclamation mark: with white
space in front, such a mark makes no difference to the evaluation.
-/

namespace Reconcile

/-! ### References that names spell -/

/-- The reference that the name of a placeholder spells. -/
inductive Reference.Spells : String → Reference → Prop where
  /-- A name with a dot spells an attribute of what stands before the first dot. -/
  | member {logicalId : String} (undotted : '.' ∉ logicalId.toList) (attr : String) :
    Spells (logicalId ++ "." ++ attr) (.member logicalId)
  /-- A name without a dot spells its value. -/
  | value {name : String} (undotted : '.' ∉ name.toList) : Spells name (.value name)

theorem Reference.spells_iff {name : String} {reference : Reference} :
  Spells name reference ↔ ofPlaceholder name = reference
  := by
  constructor
  · intro spells
    cases spells with
    | @member logicalId undotted attr =>
      have split : Text.splitOnce '.' (logicalId ++ "." ++ attr) = some (logicalId, attr) :=
        Text.splitOnce_eq_some.mpr ⟨by simp, undotted⟩
      rw [ofPlaceholder, split]
    | value undotted => rw [ofPlaceholder, Text.splitOnce_eq_none.mpr undotted]
  · rintro rfl
    cases split : Text.splitOnce '.' name with
    | none =>
      rw [ofPlaceholder, split]
      apply Spells.value (Text.splitOnce_eq_none.mp split)
    | some parts =>
      obtain ⟨logicalId, attr⟩ := parts
      obtain ⟨same, undotted⟩ := Text.splitOnce_eq_some.mp split
      have whole : name = logicalId ++ "." ++ attr := by
        apply String.toList_injective
        simpa using same
      rw [ofPlaceholder, split, whole]
      apply Spells.member undotted

/-- In turn, names spell the references that their placeholders make. -/
theorem Reference.forall₂_spells {names : List String} {references : List Reference} :
  List.Forall₂ Spells names references ↔ names.map ofPlaceholder = references
  := by
  have same : Spells = fun name reference => ofPlaceholder name = reference := by
    funext name reference
    apply propext spells_iff
  rw [same, ← List.forall₂_map_left_iff, List.forall₂_eq_eq_eq]

/-! ### The two passes over a text -/

namespace Substitution

open Text

/-- Of the names that the evaluation finds, the search for references finds those without an exclamation mark in
front. -/
theorem placeholders_eq_filter (text : String) :
  placeholders text
    = (Segment.placeholders (segments text)).filter fun name => name.toList.head? != some '!'
  := by
  rw [placeholders_eq, placeholders_segments]
  induction pieces text.toList with
  | nil => rfl
  | cons piece rest ih =>
    cases piece with
    | text characters => simpa using ih
    | hole characters =>
      rw [Piece.filterMap_hole, Piece.filterMap_hole, ih]
      by_cases marked : characters.head? = some '!'
      · -- an exclamation mark is no blank, so trimming keeps it
        rw [if_pos marked, if_pos (head?_trim_of_head? marked (by decide))]
      · rw [if_neg marked, List.filter_cons, String.toList_ofList]
        by_cases hidden : (trim characters).head? = some '!'
        · simp [hidden]
        · simp [hidden]

end Substitution

/-! ### Mentions -/

namespace Expression

variable (text : String) (bound : List (String × Expression))

/-- The names that the evaluation of a text looks up: those of its placeholders that none of its variables binds. -/
def unbound : List String :=
  (Segment.placeholders (Substitution.segments text)).filter fun name => (lookup name bound).isNone

/-- A text mentions what its variables mention, and then the references that some names spell, in order. -/
def MentionsInTurn (names : List String) : Prop :=
  ∃ references, (sub text bound).mentions = fieldMentions bound ++ references
    ∧ List.Forall₂ Reference.Spells names references

variable {text bound}

theorem mentionsInTurn_iff {names : List String} :
  MentionsInTurn text bound names ↔ names.map Reference.ofPlaceholder = textMentions text bound
  := by
  simp only [MentionsInTurn, mentions, List.append_cancel_left_eq, Reference.forall₂_spells, exists_eq_left']

theorem textMentions_eq :
  textMentions text bound
    = ((unbound text bound).filter fun name => name.toList.head? != some '!').map Reference.ofPlaceholder
  := by
  rw [textMentions, Substitution.placeholders_eq_filter, List.filter_filter, unbound, List.filter_filter]
  simp only [Bool.and_comm]

/-- After what its variables mention, a text mentions in order the names that its evaluation looks up, save those
with an exclamation mark in front.  It mentions all of them just when there is no such name. -/
theorem mentionsInTurn_unbound_iff (text : String) (bound : List (String × Expression)) :
  MentionsInTurn text bound ((unbound text bound).filter fun name => name.toList.head? != some '!')
    ∧ (MentionsInTurn text bound (unbound text bound)
      ↔ ∀ name ∈ unbound text bound, name.toList.head? ≠ some '!')
  := by
  constructor
  · rw [mentionsInTurn_iff, textMentions_eq]
  · rw [mentionsInTurn_iff, textMentions_eq]
    constructor
    · intro same
      have lengths := congrArg List.length same
      rw [List.length_map, List.length_map] at lengths
      simpa using List.length_filter_eq_length_iff.mp lengths.symm
    · intro unmarked
      rw [List.filter_eq_self.mpr (by simpa using unmarked)]

/-- A name with an exclamation mark in front, written with a blank before it, is looked up and not mentioned. -/
theorem not_mentionsInTurn_marked :
  ¬ ∀ (text : String) (bound : List (String × Expression)), MentionsInTurn text bound (unbound text bound)
  := by
  intro all
  have text : Substitution.writing "!A" = "$\x7b !A\x7d" := by decide
  have stripped : Text.IsStripped "!A" := by decide
  have looked : unbound (Substitution.writing "!A") [] = ["!A"] := by
    rw [unbound, Substitution.segments_writing stripped (by decide)]
    rfl
  have silent : textMentions (Substitution.writing "!A") [] = [] := by
    rw [textMentions, Substitution.placeholders_writing stripped (by decide)]
    rfl
  rw [text] at looked silent
  have spelled := mentionsInTurn_iff.mp (all "$\x7b !A\x7d" [])
  rw [looked, silent] at spelled
  cases spelled

end Expression

end Reconcile
