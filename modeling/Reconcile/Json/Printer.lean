import Reconcile.Json.Basic
import Reconcile.Number.Layout

/-!
# Written forms of values

The compact form has no white space at all.  The pretty form puts every item and field on a
line of its own, two blanks deeper than its container.  The canonical form is the compact
form of the value with the fields of every object sorted by name, so that it does not depend
on their order.
-/

namespace Reconcile

/-- The lower-case hexadecimal digit of a number below sixteen. -/
def hexDigit (n : Nat) : Char := (Nat.toDigits 16 (n % 16)).headD '0'

/-- A character inside quotes. -/
def escapedChar (c : Char) : List Char :=
  if c = '"' then ['\\', '"']
  else if c = '\\' then ['\\', '\\']
  else if 0x20 ≤ c.toNat then [c]
  else if c.toNat = 0x8 then ['\\', 'b']
  else if c.toNat = 0xC then ['\\', 'f']
  else if c = '\n' then ['\\', 'n']
  else if c = '\r' then ['\\', 'r']
  else if c = '\t' then ['\\', 't']
  else ['\\', 'u', '0', '0', hexDigit (c.toNat / 16), hexDigit c.toNat]

/-- A text in quotes. -/
def quoted (text : String) : List Char := '"' :: text.toList.flatMap escapedChar ++ ['"']

/-- A number in a document. -/
def Number.written : Number → List Char
  | .int n => intText n
  | .real x => x.documentText

/-- A truth value as a word. -/
def boolText (b : Bool) : String := if b then "true" else "false"

namespace Json

mutual

/-- The characters of the compact form. -/
def written : Json → List Char
  | .null => "null".toList
  | .bool b => (boolText b).toList
  | .number n => n.written
  | .string s => quoted s
  | .list items => '[' :: writtenItems items ++ [']']
  | .object fields => '{' :: writtenFields fields ++ ['}']

/-- The compact forms of some items, with commas between them. -/
def writtenItems : List Json → List Char
  | [] => []
  | [item] => written item
  | item :: rest => written item ++ ',' :: writtenItems rest

/-- The compact forms of some fields, with commas between them. -/
def writtenFields : List (String × Json) → List Char
  | [] => []
  | [(key, value)] => quoted key ++ ':' :: written value
  | (key, value) :: rest => quoted key ++ ':' :: written value ++ ',' :: writtenFields rest

end

/-- The compact form. -/
def compact (value : Json) : String := String.ofList value.written

/-- A new line at a given depth. -/
def newLine (depth : Nat) : List Char := '\n' :: List.replicate (2 * depth) ' '

mutual

/-- The characters of the pretty form at a given depth. -/
def prettyAt (depth : Nat) : Json → List Char
  | .null => "null".toList
  | .bool b => (boolText b).toList
  | .number n => n.written
  | .string s => quoted s
  | .list items =>
    if items.isEmpty then ['[', ']']
    else '[' :: newLine (depth + 1) ++ prettyItems (depth + 1) items ++ newLine depth ++ [']']
  | .object fields =>
    if fields.isEmpty then ['{', '}']
    else '{' :: newLine (depth + 1) ++ prettyFields (depth + 1) fields ++ newLine depth ++ ['}']

/-- The pretty forms of some items, each on its line. -/
def prettyItems (depth : Nat) : List Json → List Char
  | [] => []
  | [item] => prettyAt depth item
  | item :: rest => prettyAt depth item ++ ',' :: newLine depth ++ prettyItems depth rest

/-- The pretty forms of some fields, each on its line. -/
def prettyFields (depth : Nat) : List (String × Json) → List Char
  | [] => []
  | [(key, value)] => quoted key ++ ':' :: ' ' :: prettyAt depth value
  | (key, value) :: rest =>
    quoted key ++ ':' :: ' ' :: prettyAt depth value ++ ',' :: newLine depth
      ++ prettyFields depth rest

end

/-- The pretty form. -/
def pretty (value : Json) : String := String.ofList (prettyAt 0 value)

/-- Fields sorted by name. -/
def sortFields (fields : List (String × Json)) : List (String × Json) :=
  fields.mergeSort fun left right => decide (left.1 ≤ right.1)

mutual

/-- The value with the fields of every object sorted by name. -/
def sorted : Json → Json
  | .list items => .list (sortedItems items)
  | .object fields => .object (sortFields (sortedFields fields))
  | value => value

/-- Every item sorted. -/
def sortedItems : List Json → List Json
  | [] => []
  | item :: rest => sorted item :: sortedItems rest

/-- The value of every field sorted. -/
def sortedFields : List (String × Json) → List (String × Json)
  | [] => []
  | (key, value) :: rest => (key, sorted value) :: sortedFields rest

end

/-- The canonical form. -/
def canonical (value : Json) : String := value.sorted.compact

end Json

end Reconcile
