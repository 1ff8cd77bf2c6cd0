import Mathlib.Data.List.DropRight
import Mathlib.Tactic.Common
import Reconcile.Expression.References

/-!
# Placeholders

The evaluation of a text and the search for its references look at the same holes.  They differ
in what they make of an exclamation mark: the one takes a hole as it stands, the other without
the white space around it.
-/

namespace Reconcile

namespace Text

/-! ### White space at the ends -/

theorem trim_eq (text : List Char) :
  trim text = (text.dropWhile isBlank).rdropWhile isBlank
  := rfl

theorem mem_of_mem_trim {text : List Char} {c : Char} (h : c ∈ trim text) :
  c ∈ text
  := by
  rw [trim_eq] at h
  have hd := (List.rdropWhile_prefix isBlank _).subset h
  exact (List.dropWhile_sublist isBlank).subset hd

/-- A text is its own trimmed form when it neither begins nor ends with a blank. -/
theorem trim_eq_self {text : List Char} (head : ∀ c, text.head? = some c → isBlank c = false)
    (last : ∀ c, text.getLast? = some c → isBlank c = false) :
  trim text = text
  := by
  have hd : text.dropWhile isBlank = text := by
    cases text with
    | nil => rfl
    | cons c rest => apply List.dropWhile_cons_of_neg (by simp [head c rfl])
  rw [trim_eq, hd, List.rdropWhile_eq_self_iff]
  intro nonempty
  have := last _ (List.getLast?_eq_some_getLast nonempty)
  simp [this]

theorem head?_trim {text : List Char} {c : Char} (h : (trim text).head? = some c) :
  isBlank c = false
  := by
  obtain ⟨rest, hr⟩ := List.rdropWhile_prefix isBlank (text.dropWhile isBlank)
  rw [trim_eq] at h
  have hc : (text.dropWhile isBlank).head? = some c := by
    rw [← hr, List.head?_append, h]
    rfl
  have := List.head?_dropWhile_not isBlank text
  rwa [hc] at this

/-- A text that does not begin with a blank keeps its first character when it is trimmed. -/
theorem head?_trim_of_head? {text : List Char} {c : Char} (h : text.head? = some c) (solid : isBlank c = false) :
  (trim text).head? = some c
  := by
  obtain ⟨rest, rfl⟩ := List.head?_eq_some_iff.mp h
  rw [trim_eq, List.dropWhile_cons_of_neg (by simp [solid])]
  obtain ⟨dropped, hd⟩ := List.rdropWhile_prefix isBlank (c :: rest)
  cases kept : (c :: rest).rdropWhile isBlank with
  | nil => simp [List.rdropWhile_eq_nil_iff.mp kept c List.mem_cons_self] at solid
  | cons first others =>
    rw [kept, List.cons_append, List.cons.injEq] at hd
    rw [hd.1, List.head?_cons]

theorem getLast?_trim {text : List Char} {c : Char} (h : (trim text).getLast? = some c) :
  isBlank c = false
  := by
  rw [trim_eq] at h
  have nonempty : (text.dropWhile isBlank).rdropWhile isBlank ≠ [] := by
    intro e
    rw [e] at h
    cases h
  rw [List.getLast?_eq_some_getLast nonempty] at h
  obtain rfl := Option.some.inj h
  simpa using List.rdropWhile_last_not isBlank (text.dropWhile isBlank) nonempty

theorem trim_trim (text : List Char) :
  trim (trim text) = trim text
  := trim_eq_self (fun _ h => head?_trim h) (fun _ h => getLast?_trim h)

/-- A blank in front of a text is trimmed. -/
theorem trim_cons_blank {c : Char} (h : isBlank c) (text : List Char) :
  trim (c :: text) = trim text
  := by
  rw [trim_eq, List.dropWhile_cons_of_pos h, trim_eq]

/-! ### The first occurrence of a character -/

theorem breakOn_singleton {c : Char} {text before after : List Char} :
  breakOn [c] text = some (before, after) ↔ text = before ++ c :: after ∧ c ∉ before
  := by
  induction text generalizing before with
  | nil => simp [breakOn]
  | cons d rest ih =>
    by_cases hd : c = d
    · subst hd
      cases before with
      | nil => simp [breakOn, List.isPrefixOf]
      | cons b before =>
        simp only [breakOn, List.isPrefixOf, beq_self_eq_true, Bool.and_self, if_true]
        constructor
        · rintro ⟨⟩
        · rintro ⟨h, hb⟩
          simp only [List.cons_append, List.cons.injEq] at h
          simp [h.1] at hb
    · have step : breakOn [c] (d :: rest) = (breakOn [c] rest).map fun parts => (d :: parts.1, parts.2) := by
        simp [breakOn, List.isPrefixOf, hd]
      rw [step, Option.map_eq_some_iff]
      constructor
      · rintro ⟨⟨first, second⟩, hp, ⟨⟩⟩
        obtain ⟨rfl, hf⟩ := ih.mp hp
        simp [hd, hf]
      · rintro ⟨h, hb⟩
        cases before with
        | nil =>
          simp only [List.nil_append, List.cons.injEq] at h
          exact absurd h.1.symm hd
        | cons b before =>
          simp only [List.cons_append, List.cons.injEq] at h
          obtain ⟨rfl, hr⟩ := h
          refine ⟨(before, after), ih.mpr ⟨hr, ?_⟩, rfl⟩
          exact fun hc => hb (List.mem_cons_of_mem _ hc)

theorem breakOn_singleton_eq_none {c : Char} {text : List Char} :
  breakOn [c] text = none ↔ c ∉ text
  := by
  constructor
  · intro nowhere occurs
    obtain ⟨before, after, rfl, first⟩ := List.eq_append_cons_of_mem occurs
    rw [breakOn_singleton.mpr ⟨rfl, first⟩] at nowhere
    cases nowhere
  · intro absent
    rw [Option.eq_none_iff_forall_not_mem]
    rintro ⟨before, after⟩ found
    obtain ⟨rfl, -⟩ := breakOn_singleton.mp found
    apply absent (List.mem_append_right before List.mem_cons_self)

theorem breakOn_append (pattern text : List Char) (h : pattern ≠ []) :
  breakOn pattern (pattern ++ text) = some ([], text)
  := by
  cases pattern with
  | nil => exact absurd rfl h
  | cons c rest =>
    have hp : (c :: rest).isPrefixOf (c :: (rest ++ text)) = true := by
      rw [List.isPrefixOf_iff_prefix]
      apply List.prefix_append (c :: rest) text
    rw [List.cons_append, breakOn, if_pos hp]
    simp

/-! ### The parts of a text at a character -/

theorem splitOn_append_cons {c : Char} (before after : List Char) :
  (before ++ c :: after).splitOn c = before.splitOn c ++ after.splitOn c
  := List.splitOnP_append_cons before after (beq_self_eq_true c)

/-- Splitting at a text of one character is splitting at this character. -/
theorem splitOn_singleton (c : Char) (text : List Char) :
  splitOn [c] text = text.splitOn c
  := by
  generalize size : text.length = n
  induction n using Nat.strong_induction_on generalizing text with
  | _ n ih =>
    subst size
    rw [splitOn, dif_neg (List.cons_ne_nil c [])]
    cases found : breakOn [c] text with
    | none =>
      rw [List.splitOn_eq_singleton (breakOn_singleton_eq_none.mp found)]
    | some parts =>
      obtain ⟨before, after⟩ := parts
      obtain ⟨rfl, absent⟩ := breakOn_singleton.mp found
      have shorter : after.length < (before ++ c :: after).length := by
        rw [List.length_append, List.length_cons]
        omega
      rw [splitOn_append_cons, List.splitOn_eq_singleton absent, List.singleton_append, ← ih _ shorter _ rfl]

/-! ### Stripped texts -/

/-- A text without white space at its ends. -/
def IsStripped (text : String) : Prop := strip text = text

instance (text : String) : Decidable (IsStripped text) := inferInstanceAs (Decidable (_ = _))

theorem isStripped_ofList_trim (text : List Char) :
  IsStripped (String.ofList (trim text))
  := by
  rw [IsStripped, strip, String.toList_ofList, trim_trim]

theorem IsStripped.trim_eq {text : String} (h : IsStripped text) :
  trim text.toList = text.toList
  := by
  have := congrArg String.toList h
  rwa [strip, String.toList_ofList] at this

theorem splitOnce_eq_some {separator : Char} {text before after : String} :
  splitOnce separator text = some (before, after)
    ↔ text.toList = before.toList ++ separator :: after.toList ∧ separator ∉ before.toList
  := by
  unfold splitOnce
  rw [Option.map_eq_some_iff]
  constructor
  · rintro ⟨⟨first, second⟩, h, ⟨⟩⟩
    simpa using breakOn_singleton.mp h
  · rintro h
    use (before.toList, after.toList), breakOn_singleton.mpr h
    simp

theorem splitOnce_eq_none {separator : Char} {text : String} :
  splitOnce separator text = none ↔ separator ∉ text.toList
  := by
  rw [splitOnce, Option.map_eq_none_iff, breakOn_singleton_eq_none]

end Text

/-! ### Holes of a text -/

namespace Substitution

open Text

section Scanning

variable {text before after characters rest : List Char}

theorem pieces_of_unopened (opened : breakOn opening text = none) :
  pieces text = [.text text]
  := by
  rw [pieces.eq_def]
  grind

theorem pieces_of_unclosed (opened : breakOn opening text = some (before, after))
    (closed : breakOn ['\x7d'] after = none) :
  pieces text = [.text text]
  := by
  rw [pieces.eq_def]
  grind

theorem pieces_of_closed (opened : breakOn opening text = some (before, after))
    (closed : breakOn ['\x7d'] after = some (characters, rest)) :
  pieces text = .text before :: .hole characters :: pieces rest
  := by
  rw [pieces.eq_def]
  grind

theorem names_of_unopened (opened : breakOn opening text = none) :
  names text = []
  := by
  rw [names.eq_def]
  grind

theorem names_of_unclosed (opened : breakOn opening text = some (before, after))
    (closed : breakOn ['\x7d'] after = none) :
  names text = []
  := by
  rw [names.eq_def]
  grind

theorem names_of_closed (opened : breakOn opening text = some (before, after))
    (closed : breakOn ['\x7d'] after = some (characters, rest)) :
  names text
    = if (trim characters).head? = some '!' then names rest else String.ofList (trim characters) :: names rest
  := by
  rw [names.eq_def]
  grind

end Scanning

/-- The holes of a text do not contain the character that closes them. -/
theorem notMem_of_hole {text hole : List Char} (h : .hole hole ∈ pieces text) :
  '\x7d' ∉ hole
  := by
  induction text using pieces.induct with
  | case1 text opened => simp [pieces_of_unopened opened] at h
  | case2 text before after opened closed => simp [pieces_of_unclosed opened closed] at h
  | case3 text before after opened name rest closed ih =>
    simp only [pieces_of_closed opened closed, List.mem_cons, Piece.hole.injEq, reduceCtorEq, false_or] at h
    obtain rfl | h := h
    · exact (breakOn_singleton.mp closed).2
    · apply ih h

end Substitution

/-- The trimmed name in a piece that is a hole and not marked. -/
def Piece.name? (marked : List Char → Prop) [DecidablePred marked] : Piece → Option String
  | .text _ => none
  | .hole characters => if marked characters then none else some (String.ofList (Text.trim characters))

section Names

variable {marked : List Char → Prop} [DecidablePred marked]

@[simp]
theorem Piece.filterMap_text (characters : List Char) (rest : List Piece) :
  (Piece.text characters :: rest).filterMap (Piece.name? marked) = rest.filterMap (Piece.name? marked)
  := List.filterMap_cons_none rfl

@[simp]
theorem Piece.filterMap_hole (characters : List Char) (rest : List Piece) :
  (Piece.hole characters :: rest).filterMap (Piece.name? marked)
    = if marked characters then rest.filterMap (Piece.name? marked)
      else String.ofList (Text.trim characters) :: rest.filterMap (Piece.name? marked)
  := by
  rw [List.filterMap_cons, Piece.name?]
  split_ifs
  · rfl
  · rfl

theorem Piece.mem_filterMap_name? {pieces : List Piece} {name : String} :
  name ∈ pieces.filterMap (Piece.name? marked)
    ↔ ∃ hole, .hole hole ∈ pieces ∧ ¬ marked hole ∧ name = String.ofList (Text.trim hole)
  := by
  rw [List.mem_filterMap]
  constructor
  · rintro ⟨piece, hm, hp⟩
    cases piece with
    | text characters => cases hp
    | hole hole =>
      obtain ⟨unmarked, hn⟩ := Option.ite_none_left_eq_some.mp hp
      exact ⟨hole, hm, unmarked, (Option.some.inj hn).symm⟩
  · rintro ⟨hole, hm, unmarked, rfl⟩
    exact ⟨.hole hole, hm, if_neg unmarked⟩

end Names

/-- The placeholders among some segments. -/
def Segment.placeholders : List Segment → List String
  | [] => []
  | .literal _ :: rest => placeholders rest
  | .placeholder name :: rest => name :: placeholders rest

theorem Segment.placeholders_append (first second : List Segment) :
  placeholders (first ++ second) = placeholders first ++ placeholders second
  := by
  induction first with
  | nil => rfl
  | cons segment rest ih =>
    cases segment with
    | literal text => apply ih
    | placeholder name => apply congrArg (name :: ·) ih

namespace Substitution

open Text

theorem placeholders_flush (literal : List Char) :
  Segment.placeholders (if literal.isEmpty then [] else [.literal (String.ofList literal)]) = []
  := by
  split
  · rfl
  · rfl

theorem gather_unmarked {characters : List Char} (unmarked : characters.head? ≠ some '!') (literal : List Char)
    (rest : List Piece) :
  gather literal (.hole characters :: rest)
    = (if literal.isEmpty then [] else [.literal (String.ofList literal)])
      ++ .placeholder (String.ofList (trim characters)) :: gather [] rest
  := by
  rw [gather]
  rintro name rfl
  apply unmarked rfl

/-- The placeholders of a text come of its holes that do not begin with an exclamation mark as they
stand. -/
theorem placeholders_gather (literal : List Char) (pieces : List Piece) :
  Segment.placeholders (gather literal pieces) = pieces.filterMap (Piece.name? (·.head? = some '!'))
  := by
  induction pieces generalizing literal with
  | nil => rw [gather, placeholders_flush, List.filterMap_nil]
  | cons piece rest ih =>
    cases piece with
    | text characters => rw [gather, ih, Piece.filterMap_text]
    | hole characters =>
      by_cases marked : characters.head? = some '!'
      · obtain ⟨name, rfl⟩ := List.head?_eq_some_iff.mp marked
        rw [gather, ih, Piece.filterMap_hole, if_pos marked]
      · rw [gather_unmarked marked, Segment.placeholders_append, placeholders_flush, List.nil_append,
          Segment.placeholders, ih, Piece.filterMap_hole, if_neg marked]

theorem placeholders_segments (text : String) :
  Segment.placeholders (segments text) = (pieces text.toList).filterMap (Piece.name? (·.head? = some '!'))
  := placeholders_gather [] _

/-- The names that count as references come of the holes that do not begin with an exclamation mark once
white space is dropped. -/
theorem names_eq (text : List Char) :
  names text = (pieces text).filterMap (Piece.name? fun hole => (trim hole).head? = some '!')
  := by
  induction text using pieces.induct with
  | case1 text opened => simp [names_of_unopened opened, pieces_of_unopened opened]
  | case2 text before after opened closed =>
    simp [names_of_unclosed opened closed, pieces_of_unclosed opened closed]
  | case3 text before after opened hole rest closed ih =>
    rw [names_of_closed opened closed, pieces_of_closed opened closed, Piece.filterMap_text, Piece.filterMap_hole, ih]

theorem placeholders_eq (text : String) :
  placeholders text = (pieces text.toList).filterMap (Piece.name? fun hole => (trim hole).head? = some '!')
  := names_eq text.toList

theorem mem_placeholders_segments {text name : String} :
  name ∈ Segment.placeholders (segments text)
    ↔ ∃ hole, .hole hole ∈ pieces text.toList ∧ hole.head? ≠ some '!'
        ∧ name = String.ofList (trim hole)
  := by
  rw [placeholders_segments, Piece.mem_filterMap_name?]

theorem mem_placeholders {text name : String} :
  name ∈ placeholders text
    ↔ ∃ hole, .hole hole ∈ pieces text.toList ∧ (trim hole).head? ≠ some '!'
        ∧ name = String.ofList (trim hole)
  := by
  rw [placeholders_eq, Piece.mem_filterMap_name?]

/-- A text that is one hole. -/
def hole (characters : List Char) : String := String.ofList (opening ++ characters ++ ['\x7d'])

theorem pieces_hole {characters : List Char} (h : '\x7d' ∉ characters) :
  pieces (hole characters).toList = [.text [], .hole characters, .text []]
  := by
  have opened : breakOn opening (opening ++ (characters ++ ['\x7d']))
      = some ([], characters ++ ['\x7d']) := breakOn_append _ _ (by decide)
  have closed : breakOn ['\x7d'] (characters ++ ['\x7d']) = some (characters, []) :=
    breakOn_singleton.mpr ⟨rfl, h⟩
  rw [hole, String.toList_ofList, List.append_assoc, pieces_of_closed opened closed, pieces_of_unopened rfl]

theorem segments_hole {characters : List Char} (h : '\x7d' ∉ characters)
    (unmarked : characters.head? ≠ some '!') :
  segments (hole characters) = [.placeholder (String.ofList (trim characters))]
  := by
  rw [segments, pieces_hole h, gather, gather_unmarked unmarked]
  simp [gather]

theorem placeholders_hole {characters : List Char} (h : '\x7d' ∉ characters) :
  placeholders (hole characters)
    = if (trim characters).head? = some '!' then [] else [String.ofList (trim characters)]
  := by
  rw [placeholders_eq, pieces_hole h]
  simp

/-! ### Writing a placeholder -/

/-- A text that is a placeholder for a name; a blank keeps an exclamation mark from counting as such. -/
def writing (name : String) : String :=
  hole (if name.toList.head? = some '!' then ' ' :: name.toList else name.toList)

theorem segments_writing {name : String} (stripped : IsStripped name) (open_ : '\x7d' ∉ name.toList) :
  segments (writing name) = [.placeholder name]
  := by
  unfold writing
  split
  · rw [segments_hole (by simpa using open_) (by simp), trim_cons_blank (by decide), stripped.trim_eq,
      String.ofList_toList]
  · next unmarked => rw [segments_hole open_ unmarked, stripped.trim_eq, String.ofList_toList]

theorem placeholders_writing {name : String} (stripped : IsStripped name) (open_ : '\x7d' ∉ name.toList) :
  placeholders (writing name) = if name.toList.head? = some '!' then [] else [name]
  := by
  unfold writing
  split
  · next marked =>
    rw [placeholders_hole (by simpa using open_), trim_cons_blank (by decide), stripped.trim_eq, if_pos marked]
  · next unmarked =>
    rw [placeholders_hole open_, stripped.trim_eq, if_neg unmarked, String.ofList_toList]

end Substitution

end Reconcile
