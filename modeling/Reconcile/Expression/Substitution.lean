import Reconcile.Text.Scan

/-!
# Texts with placeholders

A placeholder is a name between `$` with an opening brace and a closing brace.  A name that
begins with an exclamation mark stands for the placeholder itself, without the mark.  An
opening without a closing brace is ordinary text.
-/

namespace Reconcile

/-- A piece of a text with placeholders, in the order of the text. -/
inductive Piece where
  /-- Characters outside every placeholder. -/
  | text (characters : List Char)
  /-- The characters between the braces of a placeholder. -/
  | hole (characters : List Char)
  deriving DecidableEq, Repr

/-- A segment of a text with placeholders. -/
inductive Segment where
  | literal (text : String)
  | placeholder (name : String)
  deriving DecidableEq, Repr

namespace Substitution

/-- The mark that opens a placeholder. -/
def opening : List Char := ['$', '\x7b']

/-- What comes after a placeholder is shorter than the text. -/
theorem length_rest_lt {text before after name rest : List Char}
    (opened : Text.breakOn opening text = some (before, after))
    (closed : Text.breakOn ['\x7d'] after = some (name, rest)) :
  rest.length < text.length
  := by
  have hOpened := Text.breakOn_length opened
  have hClosed := Text.breakOn_length closed
  simp only [opening, List.length_cons, List.length_nil] at hOpened hClosed
  omega

/-- The pieces of a text. -/
def pieces (text : List Char) : List Piece :=
  match _opened : Text.breakOn opening text with
  | none => [.text text]
  | some (before, after) =>
    match _closed : Text.breakOn ['\x7d'] after with
    | none => [.text text]
    | some (name, rest) => .text before :: .hole name :: pieces rest
termination_by text.length
decreasing_by exact length_rest_lt _opened _closed

/-- The segments of pieces, after literal characters that have no segment yet. -/
def gather (literal : List Char) : List Piece → List Segment
  | [] => if literal.isEmpty then [] else [.literal (String.ofList literal)]
  | .text characters :: rest => gather (literal ++ characters) rest
  | .hole ('!' :: name) :: rest => gather (literal ++ opening ++ name ++ ['\x7d']) rest
  | .hole name :: rest =>
    (if literal.isEmpty then [] else [.literal (String.ofList literal)])
      ++ .placeholder (String.ofList (Text.trim name)) :: gather [] rest

/-- The segments of a text: adjacent literals are one segment, and none is empty. -/
def segments (text : String) : List Segment := gather [] (pieces text.toList)

/-- The names in the holes of a text, trimmed, without those that then begin with an exclamation
mark.  The text is gone through for them alone, apart from its segments. -/
def names (text : List Char) : List String :=
  match _opened : Text.breakOn opening text with
  | none => []
  | some (_, after) =>
    match _closed : Text.breakOn ['\x7d'] after with
    | none => []
    | some (hole, rest) =>
      let name := Text.trim hole
      if name.head? = some '!' then names rest else String.ofList name :: names rest
termination_by text.length
decreasing_by all_goals exact length_rest_lt _opened _closed

/-- The names of the placeholders of a text that count as references. -/
def placeholders (text : String) : List String := names text.toList

end Substitution

end Reconcile
