import Mathlib.Tactic.Common
import Reconcile.Evaluation.Functions
import Reconcile.Json.Reader
import Reconcile.Proofs.Json.Distinct

/-!
# Reading compact forms

The compact form of a value tells where it ends: numbers and the words for the other scalars are
followed by a comma or a closing bracket, texts are in quotes, and lists and objects in brackets.  So
two values that are written with the same first characters are written with the same characters.
-/

namespace Reconcile

/-! ### Texts that end -/

/-- The characters that may follow a value inside another one. -/
def closers : List Char := [',', ']', '\x7d']

/-- What follows a value: nothing, or a character that closes it. -/
def Closes (rest : List Char) : Prop := ∀ c ∈ rest.head?, c ∈ closers

/-- Of two texts that something closes, none is a proper beginning of the other. -/
def PrefixFree (text text' : List Char) : Prop :=
  ∀ rest rest', Closes rest → Closes rest' → text ++ rest = text' ++ rest' → text = text' ∧ rest = rest'

theorem forall_mem_closers {P : Char → Prop} :
  (∀ c ∈ closers, P c) ↔ P ',' ∧ P ']' ∧ P '\x7d'
  := by
  simp [closers]

theorem closes_cons {c : Char} (h : c ∈ closers) (rest : List Char) :
  Closes (c :: rest)
  := by
  rintro _ ⟨⟩
  exact h

/-- Words without closing characters end where such a character follows. -/
theorem prefixFree_of_open {text text' : List Char} (h : ∀ c ∈ text, c ∉ closers) (h' : ∀ c ∈ text', c ∉ closers) :
  PrefixFree text text'
  := by
  induction text generalizing text' with
  | nil =>
    rintro rest rest' closes - equal
    cases text' with
    | nil => exact ⟨rfl, equal⟩
    | cons c text' =>
      rw [List.nil_append] at equal
      subst equal
      exact absurd (closes c rfl) (h' c List.mem_cons_self)
  | cons c text ih =>
    rintro rest rest' closes closes' equal
    cases text' with
    | nil =>
      rw [List.nil_append] at equal
      subst equal
      exact absurd (closes' c rfl) (h c List.mem_cons_self)
    | cons c' text' =>
      rw [List.forall_mem_cons] at h h'
      rw [List.cons_append, List.cons_append, List.cons.injEq] at equal
      obtain ⟨rfl, he⟩ := ih h.2 h'.2 rest rest' closes closes' equal.2
      exact ⟨by rw [equal.1], he⟩

/-- What follows the first of some texts with commas between them. -/
def afterFirst (texts : List (List Char)) (rest : List Char) : List Char :=
  if texts.isEmpty then rest else ',' :: ([','].intercalate texts ++ rest)

theorem intercalate_append (text : List Char) (texts : List (List Char)) (rest : List Char) :
  [','].intercalate (text :: texts) ++ rest = text ++ afterFirst texts rest
  := by
  cases texts with
  | nil => simp [afterFirst]
  | cons next texts => simp [afterFirst, List.intercalate_cons_cons]

theorem closes_afterFirst (texts : List (List Char)) {close : Char} (closer : close ∈ closers) (rest : List Char) :
  Closes (afterFirst texts (close :: rest))
  := by
  unfold afterFirst
  split
  · exact closes_cons closer rest
  · exact closes_cons (by decide) _

/-- Texts with commas between them that a bracket closes are told apart if each is. -/
theorem separated_eq {texts texts' : List (List Char)} (close : Char) {rest rest' : List Char}
    (closer : close ∈ closers) (bracket : close ≠ ',')
    (opens : ∀ text ∈ texts, ∃ c ∈ text.head?, c ∉ closers) (opens' : ∀ text ∈ texts', ∃ c ∈ text.head?, c ∉ closers)
    (apart : ∀ text ∈ texts, ∀ text' ∈ texts', PrefixFree text text')
    (equal : [','].intercalate texts ++ close :: rest = [','].intercalate texts' ++ close :: rest') :
  texts = texts' ∧ rest = rest'
  := by
  -- Where one list is at its end a closing character stands, and where the other goes on there is none.
  have nonempty {text : List Char} {texts : List (List Char)} {rest rest' : List Char}
      (opens : ∃ c ∈ text.head?, c ∉ closers) :
      [','].intercalate [] ++ close :: rest ≠ [','].intercalate (text :: texts) ++ close :: rest' := by
    intro equal
    obtain ⟨c, hc, closed⟩ := opens
    obtain ⟨tail, rfl⟩ := List.head?_eq_some_iff.mp hc
    rw [intercalate_append, List.cons_append] at equal
    obtain rfl := (List.cons.inj equal).1
    exact closed closer
  induction texts generalizing texts' with
  | nil =>
    cases texts' with
    | nil => exact ⟨rfl, (List.cons.inj equal).2⟩
    | cons text' texts' => exact absurd equal (nonempty (opens' text' List.mem_cons_self))
  | cons text texts ih =>
    cases texts' with
    | nil => exact absurd equal.symm (nonempty (opens text List.mem_cons_self))
    | cons text' texts' =>
      rw [List.forall_mem_cons] at opens opens'
      rw [intercalate_append, intercalate_append] at equal
      obtain ⟨rfl, follows⟩ := apart text List.mem_cons_self text' List.mem_cons_self _ _
        (closes_afterFirst texts closer rest) (closes_afterFirst texts' closer rest') equal
      unfold afterFirst at follows
      split at follows <;> split at follows
      · next empty empty' =>
        rw [List.isEmpty_iff.mp empty, List.isEmpty_iff.mp empty']
        exact ⟨rfl, (List.cons.inj follows).2⟩
      · exact absurd (List.cons.inj follows).1 bracket
      · exact absurd (List.cons.inj follows).1.symm bracket
      · obtain ⟨rfl, he⟩ := ih opens.2 opens'.2
          (fun text ht text' ht' => apart text (List.mem_cons_of_mem _ ht) text' (List.mem_cons_of_mem _ ht'))
          (List.cons.inj follows).2
        exact ⟨rfl, he⟩

/-! ### Texts in quotes -/

theorem fourDigits_written {n : Nat} (h : n < 32) (rest : List Char) :
  Json.Reader.fourDigits ('0' :: '0' :: hexDigit (n / 16) :: hexDigit n :: rest) = .ok (n, rest)
  := by
  have value : ∀ n < 32, natOfBase? 16 ['0', '0', hexDigit (n / 16), hexDigit n] = some n := by decide
  rw [Json.Reader.fourDigits, value n h]

theorem escapedUnit_written {n : Nat} (h : n < 32) (rest : List Char) :
  Json.Reader.escapedUnit ('0' :: '0' :: hexDigit (n / 16) :: hexDigit n :: rest) = .ok (Char.ofNat n, rest)
  := by
  rw [Json.Reader.escapedUnit, fourDigits_written h]
  simp only [bind, Except.bind]
  rw [if_neg (by omega), if_neg (by omega)]
  rfl

/-- An escaped character is read back. -/
theorem stringRest_escapedChar (fuel : Nat) (read : List Char) (c : Char) (rest : List Char) :
  Json.Reader.stringRest (fuel + 1) read (escapedChar c ++ rest) = Json.Reader.stringRest fuel (c :: read) rest
  := by
  have code {n : Nat} (h : c.toNat = n) : Char.ofNat n = c := by
    rw [← h, Char.ofNat_toNat]
  unfold escapedChar
  split
  · next h => simp [Json.Reader.stringRest, h]
  split
  · next h => simp [Json.Reader.stringRest, h]
  split
  · next quote backslash h => simp [Json.Reader.stringRest, quote, backslash, Nat.not_lt.mpr h]
  split
  · next h =>
    rw [← code h]
    simp [Json.Reader.stringRest]
  split
  · next h =>
    rw [← code h]
    simp [Json.Reader.stringRest]
  split
  · next h => simp [Json.Reader.stringRest, h]
  split
  · next h => simp [Json.Reader.stringRest, h]
  split
  · next h => simp [Json.Reader.stringRest, h]
  · next control _ _ _ _ _ =>
    have unit := escapedUnit_written (Nat.lt_of_not_le control) rest
    simp [Json.Reader.stringRest, unit, code rfl]

/-- A text in quotes is read back. -/
theorem stringRest_quoted (fuel : Nat) (read text rest : List Char) (h : text.length < fuel) :
  Json.Reader.stringRest fuel read (text.flatMap escapedChar ++ '"' :: rest)
    = .ok (String.ofList (read.reverse ++ text), rest)
  := by
  induction text generalizing fuel read with
  | nil =>
    obtain ⟨fuel, rfl⟩ := Nat.exists_eq_add_one.mpr h
    simp [Json.Reader.stringRest]
  | cons c text ih =>
    obtain ⟨fuel, rfl⟩ := Nat.exists_eq_add_one.mpr (Nat.zero_lt_of_lt h)
    rw [List.flatMap_cons, List.append_assoc, stringRest_escapedChar, ih fuel (c :: read) (Nat.lt_of_succ_lt_succ h)]
    simp

/-- Quotes tell where a text ends. -/
theorem quoted_append {text text' : String} {rest rest' : List Char}
    (equal : quoted text ++ rest = quoted text' ++ rest') :
  text = text' ∧ rest = rest'
  := by
  -- Both texts are read back, from the same characters.
  have inside : text.toList.flatMap escapedChar ++ '"' :: rest = text'.toList.flatMap escapedChar ++ '"' :: rest' := by
    simpa [quoted] using equal
  have back := stringRest_quoted (text.toList.length + text'.toList.length + 1) [] text.toList rest (by omega)
  rw [inside, stringRest_quoted _ [] text'.toList rest' (by omega)] at back
  obtain ⟨same, follows⟩ := Prod.mk.inj (Except.ok.inj back)
  exact ⟨by simpa using same.symm, follows.symm⟩

/-! ### Numbers -/

/-- Whether a character may stand in a number. -/
def isNumeral (c : Char) : Bool := c.isDigit || ['-', '+', '.', 'e'].contains c

theorem isNumeral_of_mem_digitsOf {n : Nat} {c : Char} (h : c ∈ digitsOf n) :
  isNumeral c
  := by
  rw [isNumeral, Nat.isDigit_of_mem_toDigits (by decide) (by decide) h, Bool.true_or]

theorem Decimal.isNumeral_of_mem_around (d : Decimal) {c : Char} (h : c ∈ d.around.1 ∨ c ∈ d.around.2) :
  isNumeral c
  := by
  have zeros {n : Nat} (h : c ∈ List.replicate n '0') : isNumeral c := by
    rw [List.eq_of_mem_replicate h]
    decide
  unfold around at h
  dsimp only at h
  split at h
  · obtain h | h := h
    · exact (List.mem_append.mp h).elim isNumeral_of_mem_digitsOf zeros
    · cases h
  split at h
  · exact h.elim (fun h => isNumeral_of_mem_digitsOf (List.mem_of_mem_take h))
      (fun h => isNumeral_of_mem_digitsOf (List.mem_of_mem_drop h))
  · obtain h | h := h
    · rw [List.mem_singleton.mp h]
      decide
    · exact (List.mem_append.mp h).elim zeros isNumeral_of_mem_digitsOf

theorem Decimal.isNumeral_of_mem_scientific (d : Decimal) :
  ∀ c ∈ d.scientific, isNumeral c
  := by
  have exponent (n : Int) : ∀ c ∈ 'e' :: (if n < 0 then '-' else '+') :: digitsOf n.natAbs, isNumeral c := by
    rw [List.forall_mem_cons, List.forall_mem_cons]
    refine ⟨by decide, ?_, fun c => isNumeral_of_mem_digitsOf⟩
    split <;> decide
  have digits : ∀ c ∈ digitsOf d.digits, isNumeral c := fun c => isNumeral_of_mem_digitsOf
  unfold scientific
  dsimp only
  split
  · exact exponent _
  · next digit single =>
    rw [single, List.forall_mem_singleton] at digits
    exact List.forall_mem_cons.mpr ⟨digits, exponent _⟩
  · next digit rest _ several =>
    rw [several, List.forall_mem_cons] at digits
    rw [List.cons_append, List.cons_append, List.forall_mem_cons, List.forall_mem_cons, List.forall_mem_append]
    exact ⟨digits.1, by decide, digits.2, exponent _⟩

theorem Decimal.scientific_ne_nil (d : Decimal) :
  d.scientific ≠ []
  := by
  unfold scientific
  dsimp only
  split <;> simp

theorem Number.isNumeral_of_mem_written (n : Number) :
  ∀ c ∈ n.written, isNumeral c
  := by
  have sign (b : Bool) : ∀ c ∈ if b then ['-'] else [], isNumeral c := by
    cases b with
    | false => exact List.forall_mem_nil _
    | true => exact List.forall_mem_singleton.mpr rfl
  cases n with
  | int n =>
    unfold written intText
    dsimp only
    split
    · exact List.forall_mem_cons.mpr ⟨by decide, fun c => isNumeral_of_mem_digitsOf⟩
    · exact fun c => isNumeral_of_mem_digitsOf
  | real x =>
    unfold written Double.documentText
    dsimp only
    split
    · rw [List.forall_mem_append, List.forall_mem_cons, List.forall_mem_cons]
      exact ⟨sign _, rfl, rfl, List.forall_mem_singleton.mpr rfl⟩
    split
    · rw [List.forall_mem_append, List.forall_mem_append, List.forall_mem_cons]
      refine ⟨⟨sign _, fun c hc => x.shortest.isNumeral_of_mem_around (.inl hc)⟩, by decide, ?_⟩
      split
      · exact List.forall_mem_singleton.mpr rfl
      · exact fun c hc => x.shortest.isNumeral_of_mem_around (.inr hc)
    · exact List.forall_mem_append.mpr ⟨sign _, x.shortest.isNumeral_of_mem_scientific⟩

theorem Number.written_ne_nil (n : Number) :
  n.written ≠ []
  := by
  cases n with
  | int n =>
    unfold written intText
    dsimp only
    split
    · exact List.cons_ne_nil _ _
    · exact Nat.toDigits_ne_nil
  | real x =>
    unfold written Double.documentText
    dsimp only
    split
    · simp
    split
    · simp
    · simp [Decimal.scientific_ne_nil]

/-! ### Values -/

namespace Json

/-- The names of fields with the compact forms of their values. -/
def fieldForms (fields : List (String × Json)) : List (String × List Char) :=
  fields.map fun field => (field.1, field.2.written)

/-- A name and the compact form of a value as they are written in an object. -/
def fieldText (field : String × List Char) : List Char := quoted field.1 ++ ':' :: field.2

theorem writtenItems_eq (items : List Json) :
  writtenItems items = [','].intercalate (items.map written)
  := by
  induction items with
  | nil => rfl
  | cons item rest ih =>
    cases rest with
    | nil => simp [writtenItems]
    | cons next rest =>
      rw [writtenItems, ih, List.map_cons, List.map_cons, List.map_cons, List.intercalate_cons_cons]
      · simp
      · exact nofun

theorem writtenFields_eq (fields : List (String × Json)) :
  writtenFields fields = [','].intercalate ((fieldForms fields).map fieldText)
  := by
  unfold fieldForms
  induction fields with
  | nil => rfl
  | cons field rest ih =>
    obtain ⟨key, value⟩ := field
    cases rest with
    | nil => simp [writtenFields, fieldText]
    | cons next rest =>
      rw [writtenFields, ih]
      · simp [fieldText, List.intercalate_cons_cons]
      · exact nofun

/-- The type of the values that are written with a given first character, if there is one. -/
def typeOfFirst? (c : Char) : Option String :=
  if isNumeral c then some "number"
  else if c = 'n' then some "null"
  else if c = 't' ∨ c = 'f' then some "boolean"
  else if c = '"' then some "string"
  else if c = '[' then some "list"
  else if c = '\x7b' then some "object"
  else none

/-- The first character of the compact form tells the type of a value. -/
theorem typeOfFirst?_written (value : Json) :
  value.written.head?.bind typeOfFirst? = some value.typeName
  := by
  cases value with
  | null => rfl
  | bool b => cases b <;> rfl
  | number n =>
    obtain ⟨c, rest, h⟩ := List.exists_cons_of_ne_nil n.written_ne_nil
    have numeral := n.isNumeral_of_mem_written c (by simp [h])
    rw [written, h, List.head?_cons, Option.bind_some, typeOfFirst?, if_pos numeral]
    rfl
  | string s => rfl
  | list items => rfl
  | object fields => rfl

theorem exists_first_written (value : Json) :
  ∃ c ∈ value.written.head?, c ∉ closers
  := by
  obtain ⟨c, first, type⟩ := Option.bind_eq_some_iff.mp value.typeOfFirst?_written
  refine ⟨c, first, fun closer => ?_⟩
  have none : ∀ c ∈ closers, typeOfFirst? c = none := forall_mem_closers.mpr (by decide)
  rw [none c closer] at type
  cases type

theorem typeName_eq_of_append {value value' : Json} {rest rest' : List Char}
    (equal : value.written ++ rest = value'.written ++ rest') :
  value.typeName = value'.typeName
  := by
  have first (value : Json) (rest : List Char) : (value.written ++ rest).head? = value.written.head? := by
    obtain ⟨c, h, -⟩ := value.exists_first_written
    rw [List.head?_append, h, Option.some_or]
  have type := value.typeOfFirst?_written
  rw [← first value rest, equal, first value' rest', typeOfFirst?_written] at type
  exact (Option.some.inj type).symm

/-- A name and a form in an object are told apart from others if the forms are. -/
theorem prefixFree_fieldText {field field' : String × List Char} (apart : PrefixFree field.2 field'.2) :
  PrefixFree (fieldText field) (fieldText field')
  := by
  intro rest rest' closes closes' equal
  unfold fieldText at equal ⊢
  rw [List.append_assoc, List.append_assoc] at equal
  obtain ⟨key, follows⟩ := quoted_append equal
  obtain ⟨value, he⟩ := apart rest rest' closes closes' (List.cons.inj follows).2
  exact ⟨by rw [key, value], he⟩

theorem fieldText_injective :
  Function.Injective fieldText
  := by
  intro field field' equal
  obtain ⟨key, follows⟩ := quoted_append equal
  exact Prod.ext key (List.cons.inj follows).2

theorem items_eq_of_append {items items' : List Json} {rest rest' : List Char}
    (apart : ∀ item ∈ items, ∀ item', PrefixFree item.written (written item'))
    (equal : (list items).written ++ rest = (list items').written ++ rest') :
  items.map written = items'.map written ∧ rest = rest'
  := by
  have first (items : List Json) : ∀ text ∈ items.map written, ∃ c ∈ text.head?, c ∉ closers := by
    rw [List.forall_mem_map]
    exact fun item _ => item.exists_first_written
  apply separated_eq ']' (by decide) (by decide) (first items) (first items')
  · rw [List.forall_mem_map]
    intro item hi
    rw [List.forall_mem_map]
    exact fun item' _ => apart item hi item'
  · rw [← writtenItems_eq, ← writtenItems_eq]
    simpa [written] using equal

theorem fields_eq_of_append {fields fields' : List (String × Json)} {rest rest' : List Char}
    (apart : ∀ field ∈ fields, ∀ value', PrefixFree field.2.written (written value'))
    (equal : (object fields).written ++ rest = (object fields').written ++ rest') :
  fieldForms fields = fieldForms fields' ∧ rest = rest'
  := by
  have first (forms : List (String × List Char)) :
      ∀ text ∈ forms.map fieldText, ∃ c ∈ text.head?, c ∉ closers := by
    rw [List.forall_mem_map]
    exact fun form _ => ⟨'"', rfl, by decide⟩
  have told : (fieldForms fields).map fieldText = (fieldForms fields').map fieldText ∧ rest = rest' := by
    apply separated_eq '\x7d' (by decide) (by decide) (first (fieldForms fields)) (first (fieldForms fields'))
    · unfold fieldForms
      simp only [List.forall_mem_map]
      exact fun field hf field' _ => prefixFree_fieldText (apart field hf field'.2)
    · rw [← writtenFields_eq, ← writtenFields_eq]
      simpa [written] using equal
  exact ⟨(List.map_inj_right fun _ _ => (fieldText_injective ·)).mp told.1, told.2⟩

/-- Two values whose compact forms are compared may be taken to be of the same type. -/
theorem prefixFree_of_typeName {value value' : Json}
    (h : value.typeName = value'.typeName → PrefixFree value.written value'.written) :
  PrefixFree value.written value'.written
  := by
  intro rest rest' closes closes' equal
  apply h (typeName_eq_of_append equal) rest rest' closes closes' equal

/-- The compact forms of two values are told apart. -/
theorem prefixFree_written (value value' : Json) :
  PrefixFree value.written value'.written
  := by
  induction value using induction generalizing value' with
  | null =>
    have word : ∀ c ∈ null.written, c ∉ closers := by simp [written, closers]
    refine prefixFree_of_typeName fun type => ?_
    cases value' with
    | null => exact prefixFree_of_open word word
    | _ => simp [typeName] at type
  | bool b =>
    have word (b : Bool) : ∀ c ∈ (bool b).written, c ∉ closers := by
      cases b <;> simp [written, boolText, closers]
    refine prefixFree_of_typeName fun type => ?_
    cases value' with
    | bool b' => exact prefixFree_of_open (word b) (word b')
    | _ => simp [typeName] at type
  | number n =>
    have word (n : Number) : ∀ c ∈ (number n).written, c ∉ closers := by
      intro c hc closer
      have none : ∀ c ∈ closers, isNumeral c = false := forall_mem_closers.mpr (by decide)
      have numeral := n.isNumeral_of_mem_written c hc
      rw [none c closer] at numeral
      cases numeral
    refine prefixFree_of_typeName fun type => ?_
    cases value' with
    | number n' => exact prefixFree_of_open (word n) (word n')
    | _ => simp [typeName] at type
  | string s =>
    refine prefixFree_of_typeName fun type => ?_
    cases value' with
    | string s' =>
      intro rest rest' _ _ equal
      obtain ⟨rfl, he⟩ := quoted_append equal
      exact ⟨rfl, he⟩
    | _ => simp [typeName] at type
  | list items ih =>
    refine prefixFree_of_typeName fun type => ?_
    cases value' with
    | list items' =>
      intro rest rest' _ _ equal
      obtain ⟨forms, he⟩ := items_eq_of_append ih equal
      exact ⟨by rw [written, written, writtenItems_eq, writtenItems_eq, forms], he⟩
    | _ => simp [typeName] at type
  | object fields ih =>
    refine prefixFree_of_typeName fun type => ?_
    cases value' with
    | object fields' =>
      intro rest rest' _ _ equal
      obtain ⟨forms, he⟩ := fields_eq_of_append ih equal
      exact ⟨by rw [written, written, writtenFields_eq, writtenFields_eq, forms], he⟩
    | _ => simp [typeName] at type

end Json

end Reconcile
