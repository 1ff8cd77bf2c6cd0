import Reconcile.Json.Basic
import Reconcile.Number.Reading

/-!
# Documents

A document is what a reader of a format makes of a text before it is known what the text is
meant to describe.  A scalar says how it reads at each kind of place: where any value may
stand, where a text, a real number or a count is wanted, and where nothing or an empty
container may stand instead.  Formats differ in these readings only.

The decoders of this module take a document to a typed value, or say why that is impossible.
-/

namespace Reconcile

/-- A scalar of a document, by its readings. -/
structure Scalar where
  /-- The value, where any value may stand. -/
  value : Option Json
  /-- The text, where a text is wanted. -/
  text : Option String
  /-- The number, where a real number is wanted. -/
  real : Option Extended := none
  /-- The number, where a natural number is wanted. -/
  count : Option Nat := none
  /-- Whether it stands for an absent optional value. -/
  absent : Bool := false
  /-- Whether it stands for an empty container. -/
  blank : Bool := false
  /-- Whether it stands for no value behind the only name of a map. -/
  void : Bool := false

/-- What a reader of a format makes of a text. -/
inductive Document where
  | scalar (s : Scalar)
  | list (items : List Document)
  | fields (entries : List (String × Document))
  /-- A document under a mark, which only a typed reading may pass over. -/
  | marked (mark : String) (body : Document)

namespace Scalar

/-- A number as a scalar. -/
def ofNumber (n : Number) : Scalar where
  value := some (.number n)
  text := none
  real :=
    match n with
    | .int n => some (.ofInt n)
    | .real x => some (.finite x)
  count :=
    match n with
    | .int n => if 0 ≤ n then some n.toNat else none
    | .real _ => none

/-- A text as a scalar. -/
def ofText (text : String) : Scalar := { value := some (.string text), text := some text }

/-- A truth value as a scalar. -/
def ofBool (b : Bool) : Scalar := { value := some (.bool b), text := none }

/-- The absent value as a scalar. -/
def null : Scalar := { value := some .null, text := none, absent := true, void := true }

/-- A scalar that has no reading. -/
def unreadable : Scalar := { value := none, text := none }

end Scalar

namespace Document

mutual

/-- A value as a document. -/
def ofJson : Json → Document
  | .null => .scalar .null
  | .bool b => .scalar (.ofBool b)
  | .number n => .scalar (.ofNumber n)
  | .string s => .scalar (.ofText s)
  | .list items => .list (ofItems items)
  | .object entries => .fields (ofFields entries)

/-- Values as documents. -/
def ofItems : List Json → List Document
  | [] => []
  | item :: rest => ofJson item :: ofItems rest

/-- Fields as documents. -/
def ofFields : List (String × Json) → List (String × Document)
  | [] => []
  | (key, value) :: rest => (key, ofJson value) :: ofFields rest

end

mutual

/-- The value of a document, where any value may stand; a repeated field keeps its first place
and its last value. -/
def toJson : Document → Except String Json
  | .scalar s =>
    match s.value with
    | some value => .ok value
    | none => .error "a value that cannot be read"
  | .list items => (toItems items).map .list
  | .fields entries => (toFields entries).map .ofFields
  | .marked _ _ => .error "a value under an unknown tag"

/-- The values of some documents. -/
def toItems : List Document → Except String (List Json)
  | [] => .ok []
  | item :: rest => do
    let value ← toJson item
    let values ← toItems rest
    return value :: values

/-- The values of some fields. -/
def toFields : List (String × Document) → Except String (List (String × Json))
  | [] => .ok []
  | (key, item) :: rest => do
    let value ← toJson item
    let values ← toFields rest
    return (key, value) :: values

end

/-- The document below its marks. -/
def unmarked : Document → Document
  | .marked _ body => unmarked body
  | document => document

/-- A decoder of documents. -/
abbrev Decoder (α : Type) := Document → Except String α

/-- Where a text is wanted. -/
def string : Decoder String := fun document =>
  match document.unmarked with
  | .scalar { text := some text, .. } => .ok text
  | _ => .error "expected a string"

/-- Where a real number is wanted. -/
def real : Decoder Extended := fun document =>
  match document.unmarked with
  | .scalar { real := some x, .. } => .ok x
  | _ => .error "expected a number"

/-- Where a natural number is wanted. -/
def count : Decoder Nat := fun document =>
  match document.unmarked with
  | .scalar { count := some n, .. } => .ok n
  | _ => .error "expected a non-negative integer"

/-- Where a list is wanted. -/
def listOf {α : Type} (item : Decoder α) : Decoder (List α) := fun document =>
  match document.unmarked with
  | .list items => items.mapM item
  | .scalar { blank := true, .. } => .ok []
  | _ => .error "expected a list"

/-- Where a map is wanted; a repeated name keeps its first place and its last value. -/
def tableOf {α : Type} (item : Decoder α) : Decoder (Table α) := fun document =>
  match document.unmarked with
  | .fields entries => do
    let pairs ← entries.mapM fun entry => do
      let value ← item entry.2
      return (entry.1, value)
    return Table.ofList pairs
  | .scalar { blank := true, .. } => .ok .empty
  | _ => .error "expected a map"

/-- Where a value may be absent; one under a mark is there. -/
def optional {α : Type} (item : Decoder α) : Decoder (Option α) := fun document =>
  match document with
  | .scalar { absent := true, .. } => .ok none
  | _ => (item document).map some

/-- Where one of some words is wanted, written alone, as a mark on nothing, or as the only name of
a map without a value. -/
def oneOf {α : Type} (words : List (String × α)) : Decoder α := fun document =>
  let word :=
    match document with
    | .scalar { text := some text, .. } => some text
    | .marked mark (.scalar { absent := true, .. }) => some mark
    | .fields [(name, .scalar { void := true, .. })] => some name
    | _ => none
  match word.bind (lookup · words) with
  | some value => .ok value
  | none => .error "expected one of the known words"

/-- The fields of a record, found by name, or by place when they are written as a list. -/
structure Record where
  found : List (String × Document)

/-- Where a record with these fields is wanted.  Unknown fields are passed over; a field given
twice, and a list with too many items, are errors. -/
def record (names : List String) : Decoder Record := fun document =>
  match document.unmarked with
  | .fields entries =>
    let known := entries.filter fun entry => names.contains entry.1
    match (names.filter fun name => 1 < (known.filter fun entry => entry.1 == name).length).head? with
    | some name => .error ("duplicate field '" ++ name ++ "'")
    | none => .ok ⟨known⟩
  | .list items =>
    if names.length < items.length then .error "a list with too many items"
    else .ok ⟨names.zip items⟩
  | .scalar { blank := true, .. } => .ok ⟨[]⟩
  | _ => .error "expected a map"

namespace Record

variable {α : Type}

/-- A field that must be there. -/
def required (record : Record) (name : String) (item : Decoder α) : Except String α :=
  match lookup name record.found with
  | some document => (item document).mapError (name ++ ": " ++ ·)
  | none => .error ("missing field '" ++ name ++ "'")

/-- A field with a value of its own when it is not there. -/
def withDefault (record : Record) (name : String) (value : α) (item : Decoder α) : Except String α :=
  match lookup name record.found with
  | some document => (item document).mapError (name ++ ": " ++ ·)
  | none => .ok value

/-- A field that may be absent. -/
def optional (record : Record) (name : String) (item : Decoder α) : Except String (Option α) :=
  record.withDefault name none (Document.optional item)

end Record

end Document

end Reconcile
