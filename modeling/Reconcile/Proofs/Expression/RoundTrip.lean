import Mathlib.Tactic.Common
import Reconcile.Proofs.Expression.Settled

/-!
# Expressions read, written and read again

An expression that was read is written as the settled form of the value that it was read from, and
what is written is read as the same expression.  All objects keep their roles and the order of their
names, and all numbers stay.
-/

namespace Reconcile

namespace Expression

open Json

/-! ### Calls that are read, written and read again -/

/-- An expression is written as the settled value, and read from it. -/
structure Settles (value : Json) (e : Expression) : Prop where
  written : e.toJson = value.settled
  again : parse value.settled = .ok e

/-- An expression is written as the call of a function with the settled argument, and read from it. -/
structure SettlesCall (function : String) (argument : Json) (e : Expression) : Prop where
  written : e.toJson = call function (argument.settledArgument function)
  again : parseCall function (argument.settledArgument function) = .ok e

/-- A call is read as such. -/
theorem parse_call {key : String} {argument : Json} (h : isCall key argument) :
  parse (call key argument) = parseCall key argument
  := by
  simp only [call, parse, h, if_true]

theorem textArgument_eq_ok {function s : String} {argument : Json} (h : textArgument function argument = .ok s) :
  argument = .string s
  := by
  cases argument with
  | string t =>
    cases h
    rfl
  | _ => cases h

section

variable {function : String} {first second third : Json} {e e₁ e₂ e₃ : Expression}

/-- A call whose argument has no settled form of its own. -/
theorem SettlesCall.of_shape {shape : Shape} {argument : Json} (h : shape? function = some shape)
    (not_member : shape ≠ .member) (not_text : shape ≠ .text)
    (written : e.toJson = call function argument.settled) (again : parseCall function argument.settled = .ok e) :
  SettlesCall function argument e
  := by
  have kept := settledArgument_eq h not_member not_text argument
  constructor
  · rw [kept, written]
  · rw [kept, again]

/-- A call whose argument is a text, without a settled form of its own. -/
theorem SettlesCall.of_text {shape : Shape} {text : String} (h : shape? function = some shape)
    (not_member : shape ≠ .member) (not_text : shape ≠ .text)
    (written : e.toJson = call function (.string text)) (again : parseCall function (.string text) = .ok e) :
  SettlesCall function (.string text) e
  := by
  apply SettlesCall.of_shape h not_member not_text
  · rw [settled_string, written]
  · rw [settled_string, again]

theorem SettlesCall.name (h : shape? function = some .name) (name : String) :
  SettlesCall function (.string name) (.ref name)
  := by
  obtain rfl := fits_of_shape? h
  apply SettlesCall.of_text h nofun nofun rfl
  unfold parseCall
  simp only [h]
  rfl

theorem SettlesCall.conditionName (h : shape? function = some .conditionName) (name : String) :
  SettlesCall function (.string name) (.condition name)
  := by
  obtain rfl := fits_of_shape? h
  apply SettlesCall.of_text h nofun nofun rfl
  unfold parseCall
  simp only [h]
  rfl

theorem SettlesCall.typeName (h : shape? function = some .typeName) (type : String) :
  SettlesCall function (.string type) (.refAll type)
  := by
  obtain rfl := fits_of_shape? h
  apply SettlesCall.of_text h nofun nofun rfl
  unfold parseCall
  simp only [h]
  rfl

/-- An attribute in one text is split. -/
theorem SettlesCall.dotted (h : shape? function = some .member) {dotted logicalId attr : String}
    (parts : Text.splitOnce '.' dotted = some (logicalId, attr)) :
  SettlesCall function (.string dotted) (.getAtt logicalId attr)
  := by
  obtain rfl := fits_of_shape? h
  have kept : (Json.string dotted).settledArgument "Fn::GetAtt" = .list [.string logicalId, .string attr] := by
    simp only [Json.settledArgument, parts]
  constructor
  · rw [kept]
    rfl
  · unfold parseCall
    simp only [h, kept]
    rfl

theorem SettlesCall.member (h : shape? function = some .member) (logicalId attr : String) :
  SettlesCall function (.list [.string logicalId, .string attr]) (.getAtt logicalId attr)
  := by
  obtain rfl := fits_of_shape? h
  have kept : (Json.list [.string logicalId, .string attr]).settledArgument "Fn::GetAtt"
      = .list [.string logicalId, .string attr] := by
    simp [Json.settledArgument, Json.settled, Json.settledItems]
  constructor
  · rw [kept]
    rfl
  · unfold parseCall
    simp only [h, kept]
    rfl

theorem SettlesCall.text (h : shape? function = some .text) (text : String) :
  SettlesCall function (.string text) (.sub text [])
  := by
  obtain rfl := fits_of_shape? h
  have kept : (Json.string text).settledArgument "Fn::Sub" = .string text := by
    simp [Json.settledArgument, Json.settled]
  constructor
  · rw [kept]
    rfl
  · unfold parseCall
    simp only [h, kept]

/-- The variables of a text are read as they are written; there is no object for none. -/
theorem SettlesCall.bindings (h : shape? function = some .text) (text : String) {entries : List (String × Json)}
    {bound : List (String × Expression)} (written : toFields bound = Json.settledFields entries)
    (again : parseFields (Json.settledFields entries) = .ok bound) :
  SettlesCall function (.list [.string text, .object entries]) (.sub text bound)
  := by
  obtain rfl := fits_of_shape? h
  match entries, bound with
  | [], [] =>
    constructor
    · rw [Json.settledArgument]
      rfl
    · unfold parseCall
      simp only [h, Json.settledArgument]
  | (key, value) :: rest, field :: more =>
    constructor
    · simp only [Json.settledArgument, ← written]
      rfl
    · unfold parseCall
      simp only [h, Json.settledArgument, again]
      rfl
  | [], field :: more => simp [toFields, Json.settledFields] at written
  | (key, value) :: rest, [] => simp [toFields, Json.settledFields] at written

theorem SettlesCall.region (h : shape? function = some .region) (s : Settles first e) :
  SettlesCall function first (.getAZs e)
  := by
  obtain rfl := fits_of_shape? h
  apply SettlesCall.of_shape h nofun nofun
  · rw [← s.written]
    rfl
  · unfold parseCall
    simp only [h, s.again]
    rfl

theorem SettlesCall.mapping (h : shape? function = some .mapping) (s₁ : Settles first e₁) (s₂ : Settles second e₂)
    (s₃ : Settles third e₃) :
  SettlesCall function (.list [first, second, third]) (.findInMap e₁ e₂ e₃)
  := by
  obtain rfl := fits_of_shape? h
  apply SettlesCall.of_shape h nofun nofun
  · simp only [Json.settled, Json.settledItems, ← s₁.written, ← s₂.written, ← s₃.written]
    rfl
  · unfold parseCall
    simp only [h, Json.settled, Json.settledItems, s₁.again, s₂.again, s₃.again]
    rfl

theorem SettlesCall.ifNamed (h : shape? function = some .choice) (name : String) (s₁ : Settles first e₁)
    (s₂ : Settles second e₂) :
  SettlesCall function (.list [.string name, first, second]) (.ifNamed name e₁ e₂)
  := by
  obtain rfl := fits_of_shape? h
  apply SettlesCall.of_shape h nofun nofun
  · simp only [Json.settled, Json.settledItems, ← s₁.written, ← s₂.written]
    rfl
  · unfold parseCall
    simp only [h, Json.settled, Json.settledItems, s₁.again, s₂.again]
    rfl

/-- A choice goes by the value of a test that is no text; it does not become one. -/
theorem SettlesCall.ifValue (h : shape? function = some .choice) (no_text : ∀ name, first ≠ .string name)
    (s₁ : Settles first e₁) (s₂ : Settles second e₂) (s₃ : Settles third e₃) :
  SettlesCall function (.list [first, second, third]) (.ifValue e₁ e₂ e₃)
  := by
  obtain rfl := fits_of_shape? h
  apply SettlesCall.of_shape h nofun nofun
  · simp only [Json.settled, Json.settledItems, ← s₁.written, ← s₂.written, ← s₃.written]
    rfl
  · unfold parseCall
    simp only [h, Json.settled, Json.settledItems]
    split
    · next name _ _ listed =>
      have still : first.settled = .string name := (List.cons.inj (Json.list.inj listed)).1
      exact absurd (settled_eq_string still) (no_text name)
    · next listed =>
      cases listed
      simp only [s₁.again, s₂.again, s₃.again]
      rfl
    · next short => exact absurd rfl (short _ _ _)

theorem SettlesCall.one {f : Unary} (h : shape? function = some (.one f)) (s : Settles first e) :
  SettlesCall function first (.unary f e)
  := by
  obtain ⟨rfl, alone⟩ := fits_of_shape? h
  apply SettlesCall.of_shape h nofun nofun
  · rw [← s.written]
    exact congrArg (call f.name) (alone e.toJson)
  · unfold parseCall
    simp only [h, s.again]
    rfl

theorem SettlesCall.listed {f : Unary} (h : shape? function = some (.listed f)) (s : Settles first e) :
  SettlesCall function (.list [first]) (.unary f e)
  := by
  obtain ⟨rfl, listed⟩ := fits_of_shape? h
  apply SettlesCall.of_shape h nofun nofun
  · simp only [Json.settled, Json.settledItems, ← s.written]
    exact congrArg (call f.name) (listed e.toJson)
  · unfold parseCall
    simp only [h, Json.settled, Json.settledItems, s.again]
    rfl

theorem SettlesCall.delimited {f : String → Unary} (h : shape? function = some (.delimited f)) (delimiter : String)
    (s : Settles first e) :
  SettlesCall function (.list [.string delimiter, first]) (.unary (f delimiter) e)
  := by
  obtain ⟨rfl, delimited⟩ := fits_of_shape? h delimiter
  apply SettlesCall.of_shape h nofun nofun
  · simp only [Json.settled, Json.settledItems, ← s.written]
    exact congrArg (call (f delimiter).name) (delimited e.toJson)
  · unfold parseCall
    simp only [h, Json.settled, Json.settledItems, s.again]
    rfl

theorem SettlesCall.two {f : Binary} (h : shape? function = some (.two f)) (s₁ : Settles first e₁)
    (s₂ : Settles second e₂) :
  SettlesCall function (.list [first, second]) (.binary f e₁ e₂)
  := by
  obtain rfl := fits_of_shape? h
  apply SettlesCall.of_shape h nofun nofun
  · simp only [Json.settled, Json.settledItems, ← s₁.written, ← s₂.written]
    rfl
  · unfold parseCall
    simp only [h, Json.settled, Json.settledItems, s₁.again, s₂.again]
    rfl

theorem SettlesCall.many {f : Junction} (h : shape? function = some (.many f)) {items : List Json}
    {es : List Expression} (written : toItems es = Json.settledItems items)
    (again : parseItems (Json.settledItems items) = .ok es) :
  SettlesCall function (.list items) (.junction f es)
  := by
  obtain rfl := fits_of_shape? h
  apply SettlesCall.of_shape h nofun nofun
  · simp only [Json.settled, ← written]
    rfl
  · unfold parseCall
    simp only [h, Json.settled, again]
    rfl

end

/-! ### Expressions that are read, written and read again -/

mutual

/-- An expression that was read is written as the settled value, and that is read as the expression. -/
theorem settles_of_parse (value : Json) {e : Expression} (h : parse value = .ok e) :
  Settles value e
  := by
  match value with
  | .null | .bool _ | .number _ | .string _ =>
    simp only [parse] at h
    cases h
    constructor
    · simp only [toJson, Json.settled]
    · simp only [Json.settled, parse]
  | .list items =>
    simp only [parse] at h
    obtain ⟨es, read, rfl⟩ := Except.map_eq_ok.mp h
    obtain ⟨written, again⟩ := settles_of_parseItems items read
    constructor
    · simp only [toJson, written, Json.settled]
    · simp only [Json.settled, parse, again, Except.map]
  | .object [(key, argument)] =>
    simp only [parse] at h
    split at h
    · next named =>
      obtain ⟨written, again⟩ := settles_of_parseCall key argument h
      have still : isCall key (argument.settledArgument key) := (isCall_settledArgument key argument).trans named
      constructor
      · simp only [Json.settled, named, if_true]
        exact written
      · simp only [Json.settled, named, if_true]
        exact (parse_call still).trans again
    · next plain =>
      obtain ⟨inner, read, ⟨⟩⟩ := Except.bind_eq_ok.mp h
      obtain ⟨written, again⟩ := settles_of_parse argument read
      constructor
      · simp only [toJson, toFields, written, Json.settled, if_neg plain]
      · simp only [Json.settled, if_neg plain, parse, isCall_settled, again]
        rfl
  | .object [] =>
    simp only [parse, parseFields] at h
    cases h
    constructor
    · simp only [toJson, toFields, Json.settled, Json.settledFields]
    · simp only [Json.settled, Json.settledFields, parse, parseFields, Except.map]
  | .object ((key, first) :: (key', second) :: rest) =>
    simp only [parse] at h
    obtain ⟨es, read, rfl⟩ := Except.map_eq_ok.mp h
    obtain ⟨written, again⟩ := settles_of_parseFields ((key, first) :: (key', second) :: rest) read
    constructor
    · simp only [toJson, written, Json.settled]
    · simp only [Json.settled, Json.settledFields] at again ⊢
      simp only [parse, again, Except.map]
termination_by (sizeOf value, 0)

theorem settles_of_parseItems (items : List Json) {es : List Expression} (h : parseItems items = .ok es) :
  toItems es = Json.settledItems items ∧ parseItems (Json.settledItems items) = .ok es
  := by
  match items with
  | [] =>
    simp only [parseItems] at h
    cases h
    simp only [toItems, Json.settledItems, parseItems, and_self]
  | item :: rest =>
    simp only [parseItems] at h
    obtain ⟨e, read, h⟩ := Except.bind_eq_ok.mp h
    obtain ⟨more, readMore, ⟨⟩⟩ := Except.bind_eq_ok.mp h
    obtain ⟨written, again⟩ := settles_of_parse item read
    obtain ⟨writtenMore, againMore⟩ := settles_of_parseItems rest readMore
    constructor
    · simp only [toItems, written, writtenMore, Json.settledItems]
    · simp only [Json.settledItems, parseItems, again, againMore]
      rfl
termination_by (sizeOf items, 0)

theorem settles_of_parseFields (fields : List (String × Json)) {es : List (String × Expression)}
    (h : parseFields fields = .ok es) :
  toFields es = Json.settledFields fields ∧ parseFields (Json.settledFields fields) = .ok es
  := by
  match fields with
  | [] =>
    simp only [parseFields] at h
    cases h
    simp only [toFields, Json.settledFields, parseFields, and_self]
  | (key, item) :: rest =>
    simp only [parseFields] at h
    obtain ⟨e, read, h⟩ := Except.bind_eq_ok.mp h
    obtain ⟨more, readMore, ⟨⟩⟩ := Except.bind_eq_ok.mp h
    obtain ⟨written, again⟩ := settles_of_parse item read
    obtain ⟨writtenMore, againMore⟩ := settles_of_parseFields rest readMore
    constructor
    · simp only [toFields, written, writtenMore, Json.settledFields]
    · simp only [Json.settledFields, parseFields, again, againMore]
      rfl
termination_by (sizeOf fields, 0)

theorem settles_of_parseCall (function : String) (argument : Json) {e : Expression}
    (h : parseCall function argument = .ok e) :
  SettlesCall function argument e
  := by
  unfold parseCall at h
  split at h
  · cases h
  · next shape =>
    obtain ⟨name, text, rfl⟩ := Except.map_eq_ok.mp h
    obtain rfl := textArgument_eq_ok text
    exact .name shape name
  · next shape =>
    obtain ⟨name, text, rfl⟩ := Except.map_eq_ok.mp h
    obtain rfl := textArgument_eq_ok text
    exact .conditionName shape name
  · next shape =>
    obtain ⟨type, text, rfl⟩ := Except.map_eq_ok.mp h
    obtain rfl := textArgument_eq_ok text
    exact .typeName shape type
  · next shape =>
    obtain ⟨region, read, rfl⟩ := Except.map_eq_ok.mp h
    exact .region shape (settles_of_parse argument read)
  · next f shape =>
    obtain ⟨operand, read, rfl⟩ := Except.map_eq_ok.mp h
    exact .one shape (settles_of_parse argument read)
  · next shape =>
    split at h
    · split at h
      · next logicalId attr parts =>
        cases h
        exact .dotted shape parts
      · cases h
    · obtain ⟨logicalId, readId, h⟩ := Except.bind_eq_ok.mp h
      obtain ⟨attr, readAttr, h⟩ := Except.bind_eq_ok.mp h
      obtain rfl := textArgument_eq_ok readId
      obtain rfl := textArgument_eq_ok readAttr
      cases h
      exact .member shape logicalId attr
    · exact absurd h wrongArguments_ne_ok
  · next shape =>
    split at h
    · next text =>
      cases h
      exact .text shape text
    · next entries =>
      obtain ⟨bound, read, h⟩ := Except.bind_eq_ok.mp h
      obtain ⟨text, readText, ⟨⟩⟩ := Except.bind_eq_ok.mp h
      obtain rfl := textArgument_eq_ok readText
      obtain ⟨written, again⟩ := settles_of_parseFields entries read
      exact .bindings shape text written again
    · cases h
    · exact absurd h wrongArguments_ne_ok
  · next shape =>
    split at h
    · next map top second =>
      obtain ⟨e₁, read₁, h⟩ := Except.bind_eq_ok.mp h
      obtain ⟨e₂, read₂, h⟩ := Except.bind_eq_ok.mp h
      obtain ⟨e₃, read₃, ⟨⟩⟩ := Except.bind_eq_ok.mp h
      exact .mapping shape (settles_of_parse map read₁) (settles_of_parse top read₂) (settles_of_parse second read₃)
    · exact absurd h wrongArguments_ne_ok
  · next shape =>
    split at h
    · next name holds otherwise =>
      obtain ⟨e₁, read₁, h⟩ := Except.bind_eq_ok.mp h
      obtain ⟨e₂, read₂, ⟨⟩⟩ := Except.bind_eq_ok.mp h
      exact .ifNamed shape name (settles_of_parse holds read₁) (settles_of_parse otherwise read₂)
    · next test holds otherwise no_text =>
      obtain ⟨e₁, read₁, h⟩ := Except.bind_eq_ok.mp h
      obtain ⟨e₂, read₂, h⟩ := Except.bind_eq_ok.mp h
      obtain ⟨e₃, read₃, ⟨⟩⟩ := Except.bind_eq_ok.mp h
      exact .ifValue shape no_text (settles_of_parse test read₁) (settles_of_parse holds read₂)
        (settles_of_parse otherwise read₃)
    · exact absurd h wrongArguments_ne_ok
  · next f shape =>
    split at h
    · next operand =>
      obtain ⟨e, read, rfl⟩ := Except.map_eq_ok.mp h
      exact .listed shape (settles_of_parse operand read)
    · exact absurd h wrongArguments_ne_ok
  · next f shape =>
    split at h
    · next argument =>
      obtain ⟨delimiter, text, h⟩ := Except.bind_eq_ok.mp h
      obtain ⟨e, read, ⟨⟩⟩ := Except.bind_eq_ok.mp h
      obtain rfl := textArgument_eq_ok text
      exact .delimited shape delimiter (settles_of_parse argument read)
    · exact absurd h wrongArguments_ne_ok
  · next f shape =>
    split at h
    · next first second =>
      obtain ⟨e₁, read₁, h⟩ := Except.bind_eq_ok.mp h
      obtain ⟨e₂, read₂, ⟨⟩⟩ := Except.bind_eq_ok.mp h
      exact .two shape (settles_of_parse first read₁) (settles_of_parse second read₂)
    · exact absurd h wrongArguments_ne_ok
  · next f shape =>
    split at h
    · next items =>
      obtain ⟨es, read, rfl⟩ := Except.map_eq_ok.mp h
      obtain ⟨written, again⟩ := settles_of_parseItems items read
      exact .many shape written again
    · cases h
termination_by (sizeOf argument, 1)

end

/-- An expression is read from the value that it is written as.  That value has the settled form of
another one, with the same roles, names and order of names of all objects and with the same numbers. -/
structure RoundTrips (value : Json) (e : Expression) : Prop where
  again : parse e.toJson = .ok e
  written : e.toJson = value.settled
  objects : e.toJson.objects = value.objects
  numbers : e.toJson.numbers = value.numbers

/-- An expression that was read is written as the settled form of what it was read from, and read
again from it. -/
theorem roundTrips_of_parse {value : Json} {e : Expression} (h : parse value = .ok e) :
  RoundTrips value e
  := by
  obtain ⟨written, again⟩ := settles_of_parse value h
  constructor
  · rw [written, again]
  · exact written
  · rw [written, objects_settled]
  · rw [written, numbers_settled]

/-- A choice between an attribute in one text and a list of a text with variables, a text with none
and an object that is no call. -/
def assorted : Json :=
  .object [("Fn::If", .list [.string "Live", .object [("Fn::GetAtt", .string "Base.Tag.Name")], .list [
    .object [("Fn::Sub", .list [.string "$\x7bRef\x7d", .object [("Ref", .int 3)]])],
    .object [("Fn::Sub", .list [.string "plain", .object []])],
    .object [("Condition", .int 1)]]])]

/-- The attribute is split at the first of its dots, and the text with variables keeps them. -/
theorem roundTrips_assorted :
  ∃ e, parse assorted = .ok e ∧ RoundTrips assorted e ∧ e.toJson =
    .object [("Fn::If", .list [.string "Live",
      .object [("Fn::GetAtt", .list [.string "Base", .string "Tag.Name"])], .list [
      .object [("Fn::Sub", .list [.string "$\x7bRef\x7d", .object [("Ref", .int 3)]])],
      .object [("Fn::Sub", .string "plain")],
      .object [("Condition", .int 1)]]])]
  := by
  have parts : Text.splitOnce '.' "Base.Tag.Name" = some ("Base", "Tag.Name") := by decide
  have read : parse assorted = .ok (.ifNamed "Live" (.getAtt "Base" "Tag.Name") (.list [
      .sub "$\x7bRef\x7d" [("Ref", .number (.int 3))], .sub "plain" [],
      .object [("Condition", .number (.int 1))]])) := by
    simp +decide [assorted, parse, parseItems, parseFields, parseCall, shape?, parts, textArgument, int]
    rfl
  refine ⟨_, read, roundTrips_of_parse read, ?_⟩
  simp [toJson, toItems, toFields, call, int]

end Expression

end Reconcile
