import Reconcile.Document.Basic

/-!
# Trees of tables

What a TOML text describes, while it is put together line by line.  A table remembers how it
came to be there, since that decides how it may still grow: a table that was only passed through
by the header of another one may get a header of its own, one that was made by dotted keys grows
by such keys, and one that has had its header, or was written on one line, is closed to others.
-/

namespace Reconcile.Toml

/-- How a table came to be there. -/
inductive Origin where
  /-- A header of another table passed through it. -/
  | passed
  /-- It has a header. -/
  | header
  /-- Dotted keys made it. -/
  | dotted
  deriving DecidableEq, Repr

/-- A value while a text is put together. -/
inductive Tree where
  /-- A value that is complete. -/
  | value (document : Document)
  | table (origin : Origin) (entries : List (String × Tree))
  /-- The tables of a list that headers make, the last one first. -/
  | tables (items : List (List (String × Tree)))

namespace Tree

mutual

/-- The document that a tree describes. -/
def document : Tree → Document
  | .value document => document
  | .table _ entries => .fields (fields entries)
  | .tables items => .list (rows items).reverse

/-- The documents of some tables. -/
def rows : List (List (String × Tree)) → List Document
  | [] => []
  | entries :: rest => .fields (fields entries) :: rows rest

/-- The fields of a table. -/
def fields : List (String × Tree) → List (String × Document)
  | [] => []
  | (key, tree) :: rest => (key, tree.document) :: fields rest

end

end Tree

/-- The error that a key has a value already. -/
def duplicate {α : Type} (key : String) : Except String α := .error ("duplicate key '" ++ key ++ "'")

/-- Enter a value under a dotted key into a table. -/
def assign (value : Document) :
    List String → List (String × Tree) → Except String (List (String × Tree))
  | [], _ => .error "a key without a name"
  | [key], entries =>
    if (lookup key entries).isSome then duplicate key
    else .ok (entries ++ [(key, .value value)])
  | key :: path, entries =>
    match lookup key entries with
    | none => do
      let inner ← assign value path []
      return entries ++ [(key, .table .dotted inner)]
    | some (.table origin sub) =>
      if origin = .header ∨ (origin = .passed ∧ path.length = 1) then duplicate key
      else do
        let sub ← assign value path sub
        return enter key (.table origin sub) entries
    | some _ => duplicate key

/-- Change the table at the end of a path of headers; tables on the way are made when they are missing. -/
def descend (change : List (String × Tree) → Except String (List (String × Tree))) :
    List String → List (String × Tree) → Except String (List (String × Tree))
  | [], entries => change entries
  | key :: path, entries =>
    match lookup key entries with
    | none => do
      let inner ← descend change path []
      return entries ++ [(key, .table .passed inner)]
    | some (.table origin sub) => do
      let sub ← descend change path sub
      return enter key (.table origin sub) entries
    | some (.tables (last :: earlier)) => do
      let last ← descend change path last
      return enter key (.tables (last :: earlier)) entries
    | some _ => duplicate key

/-- Open a table under a key by its header. -/
def openTable (key : String) (entries : List (String × Tree)) : Except String (List (String × Tree)) :=
  match lookup key entries with
  | none => .ok (entries ++ [(key, .table .header [])])
  | some (.table .passed sub) => .ok (enter key (.table .header sub) entries)
  | some _ => duplicate key

/-- Open the next table of a list under a key by its header. -/
def openItem (key : String) (entries : List (String × Tree)) : Except String (List (String × Tree)) :=
  match lookup key entries with
  | none => .ok (entries ++ [(key, .tables [[]])])
  | some (.tables items) => .ok (enter key (.tables ([] :: items)) entries)
  | some _ => duplicate key

end Reconcile.Toml
