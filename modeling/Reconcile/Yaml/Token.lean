/-!
# Tokens of YAML texts

What the indicators and the indentation of a text say, apart from the order in which they may
follow each other.
-/

namespace Reconcile.Yaml

/-- How a scalar is written. -/
inductive Style where
  | plain
  | quoted
  | literal
  | folded
  deriving DecidableEq, Repr

/-- A token of a text. -/
inductive Token where
  /-- The version of the language. -/
  | version (major minor : Nat)
  /-- A handle that abbreviates the beginning of tags. -/
  | handle (name leading : String)
  | documentStart
  | documentEnd
  | blockSequence
  | blockMapping
  | blockEnd
  | flowSequence
  | flowSequenceEnd
  | flowMapping
  | flowMappingEnd
  /-- The indicator of an item of a block sequence. -/
  | item
  /-- The comma of flow collections. -/
  | comma
  | key
  | value
  | alias (name : String)
  | anchor (name : String)
  | tag (handle name : String)
  | scalar (style : Style) (text : String)
  deriving DecidableEq, Repr

end Reconcile.Yaml
