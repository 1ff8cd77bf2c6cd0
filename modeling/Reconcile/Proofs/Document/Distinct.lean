import Mathlib.Tactic.Common
import Reconcile.Json.Reader
import Reconcile.Proofs.Evaluation.Distinct
import Reconcile.Provider.InMemory
import Reconcile.State.Document
import Reconcile.Yaml.Reader

/-!
# What is read has no repeated names

Texts may repeat the names of fields, and the readers of texts keep them all.  What takes a
document to a value, an expression or a table keeps each name once.
-/

namespace Reconcile

/-! ### Documents -/

namespace Document

/-- The scalars of a document stand for neither lists nor objects. -/
inductive Plain : Document → Prop where
  | scalar {scalar : Scalar} (plain : ∀ value, scalar.value = some value → value.isScalar) : Plain (.scalar scalar)
  | list {items : List Document} (items_plain : ∀ item ∈ items, item.Plain) : Plain (.list items)
  | fields {entries : List (String × Document)} (entries_plain : ∀ entry ∈ entries, entry.2.Plain) :
    Plain (.fields entries)
  | marked {mark : String} {body : Document} (body_plain : body.Plain) : Plain (.marked mark body)

theorem Plain.of_value {scalar : Scalar} {value : Json} (h : scalar.value = some value) (plain : value.isScalar) :
  Plain (.scalar scalar)
  := by
  apply Plain.scalar
  intro value' h'
  obtain rfl := Option.some.inj (h.symm.trans h')
  exact plain

theorem Plain.unreadable :
  Plain (.scalar .unreadable)
  := .scalar (by rintro _ ⟨⟩)

mutual

/-- The document of a value is plain. -/
theorem plain_ofJson (value : Json) :
  (ofJson value).Plain
  := by
  cases value with
  | null => exact .of_value rfl rfl
  | bool b => exact .of_value rfl rfl
  | number n => exact .of_value rfl rfl
  | string s => exact .of_value rfl rfl
  | list items => exact .list (plain_ofItems items)
  | object entries => exact .fields (plain_ofFields entries)

theorem plain_ofItems (items : List Json) :
  ∀ item ∈ ofItems items, item.Plain
  := by
  match items with
  | [] => exact List.forall_mem_nil _
  | item :: rest => exact List.forall_mem_cons.mpr ⟨plain_ofJson item, plain_ofItems rest⟩

theorem plain_ofFields (entries : List (String × Json)) :
  ∀ entry ∈ ofFields entries, entry.2.Plain
  := by
  match entries with
  | [] => exact List.forall_mem_nil _
  | (key, value) :: rest => exact List.forall_mem_cons.mpr ⟨plain_ofJson value, plain_ofFields rest⟩

end

end Document

/-! ### Readers of texts -/

namespace Json

namespace Reader

theorem plain_number {negative : Bool} {text rest : List Char} {document : Document}
    (h : number negative text = .ok (document, rest)) :
  document.Plain
  := by
  simp only [number, bind, Except.bind, pure, Except.pure] at h
  repeat' split at h
  -- However a number is written, it is read as one or not at all.
  all_goals cases h
  all_goals first | exact .of_value rfl rfl | exact .unreadable

theorem plain_value (fuel : Nat) :
  (∀ depth text document rest, value fuel depth text = .ok (document, rest) → document.Plain)
    ∧ (∀ depth text documents rest, items fuel depth text = .ok (documents, rest) →
        ∀ document ∈ documents, document.Plain)
    ∧ ∀ depth text entries rest, fields fuel depth text = .ok (entries, rest) → ∀ entry ∈ entries, entry.2.Plain
  := by
  induction fuel with
  | zero =>
    refine ⟨?_, ?_, ?_⟩
    · rintro depth text document rest ⟨⟩
    · rintro depth text documents rest ⟨⟩
    · rintro depth text entries rest ⟨⟩
  | succ fuel ih =>
    obtain ⟨value, items, fields⟩ := ih
    refine ⟨?_, ?_, ?_⟩
    · intro depth text document rest h
      unfold Reader.value at h
      split at h
      · cases h
        exact .of_value rfl rfl
      · cases h
        exact .of_value rfl rfl
      · cases h
        exact .of_value rfl rfl
      · obtain ⟨⟨text, after⟩, -, ⟨⟩⟩ := Except.bind_eq_ok.mp h
        exact .of_value rfl rfl
      · exact plain_number h
      · split at h
        · cases h
        · split at h
          · cases h
            exact .list (List.forall_mem_nil _)
          · obtain ⟨⟨documents, after⟩, read, ⟨⟩⟩ := Except.bind_eq_ok.mp h
            exact .list (items _ _ _ _ read)
      · split at h
        · cases h
        · split at h
          · cases h
            exact .fields (List.forall_mem_nil _)
          · obtain ⟨⟨entries, after⟩, read, ⟨⟩⟩ := Except.bind_eq_ok.mp h
            exact .fields (fields _ _ _ _ read)
      · cases h
      · exact plain_number h
    · intro depth text documents rest h
      unfold Reader.items at h
      obtain ⟨⟨item, after⟩, read, h⟩ := Except.bind_eq_ok.mp h
      dsimp only at h
      split at h
      · obtain ⟨⟨more, _⟩, readMore, ⟨⟩⟩ := Except.bind_eq_ok.mp h
        exact List.forall_mem_cons.mpr ⟨value _ _ _ _ read, items _ _ _ _ readMore⟩
      · cases h
        exact List.forall_mem_singleton.mpr (value _ _ _ _ read)
      · cases h
    · intro depth text entries rest h
      unfold Reader.fields at h
      split at h
      · obtain ⟨⟨key, after⟩, -, h⟩ := Except.bind_eq_ok.mp h
        dsimp only at h
        split at h
        · obtain ⟨⟨item, after⟩, read, h⟩ := Except.bind_eq_ok.mp h
          dsimp only at h
          split at h
          · obtain ⟨⟨more, _⟩, readMore, ⟨⟩⟩ := Except.bind_eq_ok.mp h
            exact List.forall_mem_cons.mpr ⟨value _ _ _ _ read, fields _ _ _ _ readMore⟩
          · cases h
            exact List.forall_mem_singleton.mpr (value _ _ _ _ read)
          · cases h
        · cases h
      · cases h

end Reader

/-- The document of a JSON text is plain. -/
theorem plain_read {text : String} {document : Document} (h : read text = .ok document) :
  document.Plain
  := by
  obtain ⟨⟨document', rest⟩, read, h⟩ := Except.bind_eq_ok.mp h
  dsimp only at h
  split at h
  · cases h
    exact (Reader.plain_value _).1 _ _ _ _ read
  · cases h

end Json

namespace Yaml

theorem isScalar_realValue (x : Extended) :
  (realValue x).isScalar
  := by
  cases x with
  | finite x => rfl
  | _ => rfl

theorem isScalar_integerValue {n : Int} {value : Json} (h : integerValue n = some value) :
  value.isScalar
  := by
  unfold integerValue at h
  split at h
  · cases h
    rfl
  · cases h

theorem isScalar_plainValue {text : String} {value : Json} (h : plainValue text = some value) :
  value.isScalar
  := by
  unfold plainValue at h
  split at h
  · cases h
    rfl
  · split at h
    · cases h
      rfl
    · exact isScalar_integerValue h
    · split at h
      · cases h
        rfl
      · cases h
        cases real? text.toList with
        | none => rfl
        | some x => apply isScalar_realValue

theorem isScalar_taggedValue {tag text : String} {value : Json} (h : taggedValue tag text = some value) :
  value.isScalar
  := by
  unfold taggedValue at h
  split at h
  · obtain ⟨b, -, rfl⟩ := Option.map_eq_some_iff.mp h
    rfl
  · split at h
    · obtain ⟨n, -, h⟩ := Option.bind_eq_some_iff.mp h
      exact isScalar_integerValue h
    · split at h
      · obtain ⟨x, -, rfl⟩ := Option.map_eq_some_iff.mp h
        apply isScalar_realValue
      · split at h
        · split at h
          · cases h
            rfl
          · cases h
        · cases h
          rfl

theorem plain_readings (tag : Option String) (style : Style) (text : String) :
  (Document.scalar (readings tag style text)).Plain
  := by
  apply Document.Plain.scalar
  intro value h
  simp only [readings] at h
  split at h
  · exact isScalar_taggedValue h
  · split at h
    · exact isScalar_plainValue h
    · cases h
      rfl

theorem plain_underTag {read : Option String → Document} (h : ∀ tag, (read tag).Plain) (tag : Option String) :
  (underTag tag read).Plain
  := by
  unfold underTag
  split
  · split
    · exact .marked (h none)
    · apply h
  · apply h

/-- What every item is read as has a property. -/
theorem forall_mem_of_mapM {α β : Type} {f : α → Replacing β} {holds : β → Prop} {items : List α}
    (each : ∀ item left b left', (f item).run left = .ok (b, left') → holds b) {left left' : Nat} {bs : List β}
    (h : (items.mapM f).run left = .ok (bs, left')) :
  ∀ b ∈ bs, holds b
  := by
  induction items generalizing left left' bs with
  | nil =>
    cases h
    exact List.forall_mem_nil _
  | cons item rest ih =>
    rw [List.mapM_cons] at h
    obtain ⟨⟨b, middle⟩, read, h⟩ := Except.bind_eq_ok.mp h
    obtain ⟨⟨more, after⟩, readMore, ⟨⟩⟩ := Except.bind_eq_ok.mp h
    exact List.forall_mem_cons.mpr ⟨each _ _ _ _ read, ih readMore⟩

/-- The document of a node is plain. -/
theorem plain_document {anchored : Nat → Option Node} {depth : Nat} {node : Node} {left left' : Nat}
    {document : Document} (h : (node.document anchored depth).run left = .ok (document, left')) :
  document.Plain
  := by
  induction depth generalizing node left left' document with
  | zero =>
    cases h
    exact .unreadable
  | succ depth ih =>
    match node, h with
    | .scalar tag style text, h =>
      cases h
      exact plain_underTag (fun tag => plain_readings tag style text) tag
    | .alias anchor, h =>
      rw [Node.document, StateT.run_bind, StateT.run_get] at h
      obtain ⟨⟨_, _⟩, ⟨⟩, h⟩ := Except.bind_eq_ok.mp h
      dsimp only at h
      split at h
      · cases h
      · rw [StateT.run_bind, StateT.run_set] at h
        obtain ⟨⟨_, _⟩, ⟨⟩, h⟩ := Except.bind_eq_ok.mp h
        dsimp only at h
        split at h
        · exact ih h
        · cases h
          exact .unreadable
    | .sequence tag items, h =>
      obtain ⟨⟨documents, _⟩, read, ⟨⟩⟩ := Except.bind_eq_ok.mp h
      apply plain_underTag
      intro tag
      exact .list (forall_mem_of_mapM (fun item left document left' h => ih h) read)
    | .mapping tag entries, h =>
      obtain ⟨⟨named, _⟩, read, ⟨⟩⟩ := Except.bind_eq_ok.mp h
      have plain : ∀ entry ∈ named, entry.2.Plain := by
        refine forall_mem_of_mapM ?_ read
        intro entry left entry' left' h
        obtain ⟨⟨key, _⟩, -, h⟩ := Except.bind_eq_ok.mp h
        obtain ⟨⟨value, _⟩, readValue, ⟨⟩⟩ := Except.bind_eq_ok.mp h
        exact ih readValue
      apply plain_underTag
      intro tag
      split
      · apply Document.Plain.fields
        intro entry he
        obtain ⟨⟨key, value⟩, hm, he⟩ := List.mem_filterMap.mp he
        obtain ⟨name, -, rfl⟩ := Option.map_eq_some_iff.mp he
        exact plain _ hm
      · exact .unreadable

/-- The document of a YAML text is plain. -/
theorem plain_read {text : String} {document : Document} (h : read text = .ok document) :
  document.Plain
  := by
  obtain ⟨_, -, h⟩ := Except.bind_eq_ok.mp h
  obtain ⟨⟨node, composer⟩, -, h⟩ := Except.bind_eq_ok.mp h
  cases node with
  | none =>
    cases h
    exact .of_value rfl rfl
  | some node =>
    obtain ⟨⟨document', left⟩, read, ⟨⟩⟩ := Except.bind_eq_ok.mp h
    exact plain_document read

end Yaml

/-! ### Values and expressions -/

theorem Json.distinct_ofFields {fields : List (String × Json)} (h : ∀ field ∈ fields, field.2.Distinct) :
  (ofFields fields).Distinct
  := .object (nodup_foldl_enter fields List.nodup_nil) fun field hf => h field (mem_of_mem_enterAll hf)

namespace Document

mutual

/-- In the value of a plain document no name is repeated. -/
theorem distinct_toJson (document : Document) (plain : document.Plain) {value : Json}
    (h : document.toJson = .ok value) :
  value.Distinct
  := by
  match document, plain with
  | .scalar s, .scalar plain =>
    unfold toJson at h
    split at h
    · next value' found =>
      cases h
      exact .of_isScalar (plain value found)
    · cases h
  | .list items, .list plain =>
    obtain ⟨values, read, rfl⟩ := Except.map_eq_ok.mp h
    exact .list (distinct_toItems items plain read)
  | .fields entries, .fields plain =>
    obtain ⟨values, read, rfl⟩ := Except.map_eq_ok.mp h
    exact Json.distinct_ofFields (distinct_toFields entries plain read)
  | .marked mark body, _ => cases h

theorem distinct_toItems (items : List Document) (plain : ∀ item ∈ items, item.Plain) {values : List Json}
    (h : toItems items = .ok values) :
  ∀ value ∈ values, value.Distinct
  := by
  match items with
  | [] =>
    cases h
    exact List.forall_mem_nil _
  | item :: rest =>
    obtain ⟨value, read, h⟩ := Except.bind_eq_ok.mp h
    obtain ⟨more, readMore, ⟨⟩⟩ := Except.bind_eq_ok.mp h
    obtain ⟨first, plain⟩ := List.forall_mem_cons.mp plain
    exact List.forall_mem_cons.mpr ⟨distinct_toJson item first read, distinct_toItems rest plain readMore⟩

theorem distinct_toFields (entries : List (String × Document)) (plain : ∀ entry ∈ entries, entry.2.Plain)
    {values : List (String × Json)} (h : toFields entries = .ok values) :
  ∀ value ∈ values, value.2.Distinct
  := by
  match entries with
  | [] =>
    cases h
    exact List.forall_mem_nil _
  | (key, item) :: rest =>
    obtain ⟨value, read, h⟩ := Except.bind_eq_ok.mp h
    obtain ⟨more, readMore, ⟨⟩⟩ := Except.bind_eq_ok.mp h
    obtain ⟨first, plain⟩ := List.forall_mem_cons.mp plain
    exact List.forall_mem_cons.mpr ⟨distinct_toJson item first read, distinct_toFields rest plain readMore⟩

end

end Document

namespace Expression

theorem wrongArguments_ne_ok {α : Type} {function : String} {count : Nat} {argument : Json} {a : α} :
  wrongArguments function count argument ≠ .ok a
  := by
  unfold wrongArguments
  split
  · rintro ⟨⟩
  · rintro ⟨⟩

mutual

/-- In the expression that a value writes no name is repeated. -/
theorem distinct_parse (value : Json) (distinct : value.Distinct) {expression : Expression}
    (h : parse value = .ok expression) :
  expression.Distinct
  := by
  match value with
  | .null =>
    simp only [parse] at h
    cases h
    exact .null
  | .bool b =>
    simp only [parse] at h
    cases h
    exact .bool b
  | .number n =>
    simp only [parse] at h
    cases h
    exact .number n
  | .string s =>
    simp only [parse] at h
    cases h
    exact .string s
  | .list items =>
    cases distinct with
    | list items_distinct =>
      simp only [parse] at h
      obtain ⟨values, read, rfl⟩ := Except.map_eq_ok.mp h
      exact .list (distinct_parseItems items items_distinct read)
  | .object [(key, argument)] =>
    cases distinct with
    | object nodup fields_distinct =>
      simp only [parse] at h
      have argument_distinct : argument.Distinct := fields_distinct (key, argument) List.mem_cons_self
      split at h
      · exact distinct_parseCall key argument argument_distinct h
      · obtain ⟨value, read, ⟨⟩⟩ := Except.bind_eq_ok.mp h
        have value_distinct := distinct_parse argument argument_distinct read
        exact .object (by simp) (List.forall_mem_singleton.mpr value_distinct)
  | .object [] =>
    simp only [parse, parseFields] at h
    cases h
    exact .object List.nodup_nil (List.forall_mem_nil _)
  | .object (first :: second :: rest) =>
    cases distinct with
    | object nodup fields_distinct =>
      simp only [parse] at h
      obtain ⟨values, read, rfl⟩ := Except.map_eq_ok.mp h
      obtain ⟨names, values_distinct⟩ := distinct_parseFields (first :: second :: rest) fields_distinct read
      exact .object (names ▸ nodup) values_distinct

theorem distinct_parseItems (items : List Json) (distinct : ∀ item ∈ items, item.Distinct)
    {values : List Expression} (h : parseItems items = .ok values) :
  ∀ value ∈ values, value.Distinct
  := by
  match items with
  | [] =>
    simp only [parseItems] at h
    cases h
    exact List.forall_mem_nil _
  | item :: rest =>
    simp only [parseItems] at h
    obtain ⟨value, read, h⟩ := Except.bind_eq_ok.mp h
    obtain ⟨more, readMore, ⟨⟩⟩ := Except.bind_eq_ok.mp h
    obtain ⟨first, distinct⟩ := List.forall_mem_cons.mp distinct
    exact List.forall_mem_cons.mpr ⟨distinct_parse item first read, distinct_parseItems rest distinct readMore⟩

theorem distinct_parseFields (fields : List (String × Json)) (distinct : ∀ field ∈ fields, field.2.Distinct)
    {values : List (String × Expression)} (h : parseFields fields = .ok values) :
  values.map (·.1) = fields.map (·.1) ∧ ∀ value ∈ values, value.2.Distinct
  := by
  match fields with
  | [] =>
    simp only [parseFields] at h
    cases h
    exact ⟨rfl, List.forall_mem_nil _⟩
  | (key, item) :: rest =>
    simp only [parseFields] at h
    obtain ⟨value, read, h⟩ := Except.bind_eq_ok.mp h
    obtain ⟨more, readMore, ⟨⟩⟩ := Except.bind_eq_ok.mp h
    obtain ⟨first, distinct⟩ := List.forall_mem_cons.mp distinct
    obtain ⟨names, more_distinct⟩ := distinct_parseFields rest distinct readMore
    exact ⟨congrArg (key :: ·) names,
      List.forall_mem_cons.mpr ⟨distinct_parse item first read, more_distinct⟩⟩

theorem distinct_parseCall (function : String) (argument : Json) (distinct : argument.Distinct)
    {expression : Expression} (h : parseCall function argument = .ok expression) :
  expression.Distinct
  := by
  unfold parseCall at h
  split at h
  · cases h
  · obtain ⟨name, -, rfl⟩ := Except.map_eq_ok.mp h
    exact .ref name
  · obtain ⟨name, -, rfl⟩ := Except.map_eq_ok.mp h
    exact .condition name
  · obtain ⟨name, -, rfl⟩ := Except.map_eq_ok.mp h
    exact .refAll name
  · obtain ⟨region, -, rfl⟩ := Except.map_eq_ok.mp h
    exact .getAZs region
  · obtain ⟨operand, -, rfl⟩ := Except.map_eq_ok.mp h
    exact .unary _ operand
  · split at h
    · split at h
      · cases h
        exact .getAtt _ _
      · cases h
    · obtain ⟨logicalId, -, h⟩ := Except.bind_eq_ok.mp h
      obtain ⟨attr, -, ⟨⟩⟩ := Except.bind_eq_ok.mp h
      exact .getAtt logicalId attr
    · exact absurd h wrongArguments_ne_ok
  · split at h
    · cases h
      exact .sub
    · obtain ⟨bound, -, h⟩ := Except.bind_eq_ok.mp h
      obtain ⟨text, -, ⟨⟩⟩ := Except.bind_eq_ok.mp h
      exact .sub
    · cases h
    · exact absurd h wrongArguments_ne_ok
  · split at h
    · obtain ⟨table, -, h⟩ := Except.bind_eq_ok.mp h
      obtain ⟨top, -, h⟩ := Except.bind_eq_ok.mp h
      obtain ⟨second, -, ⟨⟩⟩ := Except.bind_eq_ok.mp h
      exact .findInMap table top second
    · exact absurd h wrongArguments_ne_ok
  · split at h
    · next name holds otherwise =>
      cases distinct with
      | list distinct =>
        obtain ⟨first, readFirst, h⟩ := Except.bind_eq_ok.mp h
        obtain ⟨second, readSecond, ⟨⟩⟩ := Except.bind_eq_ok.mp h
        exact .ifNamed (distinct_parse holds (distinct holds (by simp)) readFirst)
          (distinct_parse otherwise (distinct otherwise (by simp)) readSecond)
    · next test holds otherwise _ =>
      cases distinct with
      | list distinct =>
        obtain ⟨_, -, h⟩ := Except.bind_eq_ok.mp h
        obtain ⟨first, readFirst, h⟩ := Except.bind_eq_ok.mp h
        obtain ⟨second, readSecond, ⟨⟩⟩ := Except.bind_eq_ok.mp h
        exact .ifValue (distinct_parse holds (distinct holds (by simp)) readFirst)
          (distinct_parse otherwise (distinct otherwise (by simp)) readSecond)
    · exact absurd h wrongArguments_ne_ok
  · split at h
    · obtain ⟨operand, -, rfl⟩ := Except.map_eq_ok.mp h
      exact .unary _ operand
    · exact absurd h wrongArguments_ne_ok
  · split at h
    · obtain ⟨delimiter, -, h⟩ := Except.bind_eq_ok.mp h
      obtain ⟨values, -, ⟨⟩⟩ := Except.bind_eq_ok.mp h
      exact .unary _ values
    · exact absurd h wrongArguments_ne_ok
  · split at h
    · next first second =>
      cases distinct with
      | list distinct =>
        obtain ⟨first', -, h⟩ := Except.bind_eq_ok.mp h
        obtain ⟨second', read, ⟨⟩⟩ := Except.bind_eq_ok.mp h
        exact .binary (distinct_parse second (distinct second (by simp)) read)
    · exact absurd h wrongArguments_ne_ok
  · split at h
    · obtain ⟨operands, -, rfl⟩ := Except.map_eq_ok.mp h
      exact .junction _ operands
    · cases h

end

end Expression

/-! ### Templates and states -/

namespace Document

/-- The fields of a record are plain. -/
def Record.Plain (record : Record) : Prop := ∀ entry ∈ record.found, entry.2.Plain

variable {α : Type} {document : Document}

theorem Plain.unmarked (plain : document.Plain) :
  document.unmarked.Plain
  := by
  induction plain with
  | marked _ ih => exact ih
  | scalar plain => exact .scalar plain
  | list plain => exact .list plain
  | fields plain => exact .fields plain

theorem Plain.record (plain : document.Plain) {names : List String} {fields : Record}
    (h : Document.record names document = .ok fields) :
  fields.Plain
  := by
  have plain := plain.unmarked
  unfold Document.record at h
  split at h
  · next entries he =>
    rw [he] at plain
    cases plain with
    | fields plain =>
      dsimp only at h
      split at h
      · cases h
      · cases h
        intro entry hm
        exact plain entry (List.mem_of_mem_filter hm)
  · next items he =>
    rw [he] at plain
    cases plain with
    | list plain =>
      split at h
      · cases h
      · cases h
        intro entry hm
        exact plain entry.2 (List.of_mem_zip hm).2
  · cases h
    exact List.forall_mem_nil _
  · cases h

namespace Record

variable {record : Record} (plain : record.Plain) {name : String} {item : Decoder α}

include plain

/-- A field that must be there is read from a plain document. -/
theorem Plain.required {a : α} (h : record.required name item = .ok a) :
  ∃ document, document.Plain ∧ item document = .ok a
  := by
  unfold Record.required at h
  split at h
  · next document found => exact ⟨document, plain _ (mem_of_lookup found), Except.mapError_eq_ok.mp h⟩
  · cases h

theorem Plain.withDefault {value a : α} (h : record.withDefault name value item = .ok a) :
  a = value ∨ ∃ document, document.Plain ∧ item document = .ok a
  := by
  unfold Record.withDefault at h
  split at h
  · next document found => exact .inr ⟨document, plain _ (mem_of_lookup found), Except.mapError_eq_ok.mp h⟩
  · cases h
    exact .inl rfl

theorem Plain.optional {a : α} (h : record.optional name item = .ok (some a)) :
  ∃ document, document.Plain ∧ item document = .ok a
  := by
  obtain ⟨⟨⟩⟩ | ⟨document, plain, h⟩ := plain.withDefault h
  unfold Document.optional at h
  split at h
  · cases h
  · obtain ⟨a', read, ⟨⟩⟩ := Except.map_eq_ok.mp h
    exact ⟨document, plain, read⟩

end Record

/-- What stands in a table is read from plain documents. -/
theorem Plain.tableOf (plain : document.Plain) {item : Decoder α} {table : Table α}
    (h : Document.tableOf item document = .ok table) {name : String} {a : α} (found : table.get? name = some a) :
  ∃ document, document.Plain ∧ item document = .ok a
  := by
  have plain := plain.unmarked
  unfold Document.tableOf at h
  split at h
  · next entries he =>
    rw [he] at plain
    cases plain with
    | fields plain =>
      obtain ⟨pairs, read, ⟨⟩⟩ := Except.bind_eq_ok.mp h
      have listed : (name, a) ∈ pairs := mem_of_mem_enterAll ((Table.get?_eq_some_iff _ _ _).mp found)
      obtain ⟨entry, hm, h⟩ := Except.exists_mem_of_mapM_eq_ok read listed
      obtain ⟨value, h, ⟨⟩⟩ := Except.bind_eq_ok.mp h
      exact ⟨entry.2, plain entry hm, h⟩
  · cases h
    simp at found
  · cases h

theorem distinct_expression (plain : document.Plain) {expression : Expression}
    (h : Document.expression document = .ok expression) :
  expression.Distinct
  := by
  obtain ⟨value, read, h⟩ := Except.bind_eq_ok.mp h
  exact Expression.distinct_parse value (distinct_toJson document plain read) (Except.mapError_eq_ok.mp h)

theorem distinct_resource (plain : document.Plain) {resource : Resource}
    (h : Document.resource document = .ok resource) :
  resource.desiredProperties.Distinct
  := by
  obtain ⟨fields, read, h⟩ := Except.bind_eq_ok.mp h
  obtain ⟨type, -, h⟩ := Except.bind_eq_ok.mp h
  obtain ⟨properties, found, h⟩ := Except.bind_eq_ok.mp h
  obtain ⟨dependsOn, -, h⟩ := Except.bind_eq_ok.mp h
  obtain ⟨condition, -, h⟩ := Except.bind_eq_ok.mp h
  obtain ⟨deletionPolicy, -, h⟩ := Except.bind_eq_ok.mp h
  obtain ⟨updateReplacePolicy, -, h⟩ := Except.bind_eq_ok.mp h
  obtain ⟨metadata, -, ⟨⟩⟩ := Except.bind_eq_ok.mp h
  cases properties with
  | none => exact .object List.nodup_nil (List.forall_mem_nil _)
  | some expression =>
    obtain ⟨document, plain, h⟩ := (plain.record read).optional found
    exact distinct_expression plain h

/-- No name is repeated in a template that is read. -/
theorem distinct_template (plain : document.Plain) {template : Template}
    (h : Document.template document = .ok template) :
  template.Distinct
  := by
  obtain ⟨fields, read, h⟩ := Except.bind_eq_ok.mp h
  obtain ⟨formatVersion, -, h⟩ := Except.bind_eq_ok.mp h
  obtain ⟨description, -, h⟩ := Except.bind_eq_ok.mp h
  obtain ⟨parameters, -, h⟩ := Except.bind_eq_ok.mp h
  obtain ⟨conditions, -, h⟩ := Except.bind_eq_ok.mp h
  obtain ⟨mappings, readMappings, h⟩ := Except.bind_eq_ok.mp h
  obtain ⟨rules, -, h⟩ := Except.bind_eq_ok.mp h
  obtain ⟨resources, readResources, h⟩ := Except.bind_eq_ok.mp h
  obtain ⟨outputs, -, ⟨⟩⟩ := Except.bind_eq_ok.mp h
  have fields := plain.record read
  constructor
  · intro id resource declared
    obtain ⟨document, plain, h⟩ := fields.required readResources
    obtain ⟨document, plain, h⟩ := plain.tableOf h declared
    exact distinct_resource plain h
  · intro map tops top seconds second value hm ht hs
    obtain rfl | ⟨document, plain, h⟩ := fields.withDefault readMappings
    · simp at hm
    · obtain ⟨document, plain, h⟩ := plain.tableOf h hm
      obtain ⟨document, plain, h⟩ := plain.tableOf h ht
      obtain ⟨document, plain, h⟩ := plain.tableOf h hs
      exact distinct_toJson document plain h

theorem distinct_physicalResource (plain : document.Plain) {physical : PhysicalResource}
    (h : Document.physicalResource document = .ok physical) :
  physical.Distinct
  := by
  obtain ⟨fields, read, h⟩ := Except.bind_eq_ok.mp h
  obtain ⟨type, -, h⟩ := Except.bind_eq_ok.mp h
  obtain ⟨physicalId, -, h⟩ := Except.bind_eq_ok.mp h
  obtain ⟨properties, readProperties, h⟩ := Except.bind_eq_ok.mp h
  obtain ⟨attributes, readAttributes, h⟩ := Except.bind_eq_ok.mp h
  obtain ⟨propertiesHash, -, ⟨⟩⟩ := Except.bind_eq_ok.mp h
  have fields := plain.record read
  constructor
  · obtain rfl | ⟨document, plain, h⟩ := fields.withDefault readProperties
    · exact .null
    · exact distinct_toJson document plain h
  · obtain rfl | ⟨document, plain, h⟩ := fields.withDefault readAttributes
    · exact Table.distinct_empty
    · intro name value found
      obtain ⟨document, plain, h⟩ := plain.tableOf h found
      exact distinct_toJson document plain h

/-- No name is repeated in what is recorded in a state that is read. -/
theorem distinct_stackState (plain : document.Plain) {state : StackState}
    (h : Document.stackState document = .ok state) {id : String} {physical : PhysicalResource}
    (recorded : state.resources.get? id = some physical) :
  physical.Distinct
  := by
  obtain ⟨fields, read, h⟩ := Except.bind_eq_ok.mp h
  obtain ⟨template, -, h⟩ := Except.bind_eq_ok.mp h
  obtain ⟨resources, readResources, h⟩ := Except.bind_eq_ok.mp h
  obtain ⟨outputs, -, ⟨⟩⟩ := Except.bind_eq_ok.mp h
  obtain rfl | ⟨document, plain, h⟩ := (plain.record read).withDefault readResources
  · simp at recorded
  · obtain ⟨document, plain, h⟩ := plain.tableOf h recorded
    exact distinct_physicalResource plain h

end Document

end Reconcile
