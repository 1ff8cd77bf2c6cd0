import Reconcile.Number.Reading

/-!
# Places in YAML texts

A place is what is left of a text, together with where that begins.  Lines end at a line feed, a
carriage return, both together, or at one of three other line ends, U+0085, U+2028 and U+2029.
-/

namespace Reconcile.Yaml

/-- Whether a character ends a line. -/
def isBreak (c : Char) : Bool :=
  c == '\n' || c == '\r' || c.toNat == 0x85 || c.toNat == 0x2028 || c.toNat == 0x2029

/-- Whether a character separates words on one line. -/
def isSpace (c : Char) : Bool := c == ' ' || c == '\t'

/-- Whether a character may stand in the name of an anchor, a handle or a directive. -/
def isWord (c : Char) : Bool :=
  isDigit c || ('a' ≤ c && c ≤ 'z') || ('A' ≤ c && c ≤ 'Z') || c == '_' || c == '-'

/-- Whether a character may stand in a text at all. -/
def isAllowed (c : Char) : Bool :=
  let n := c.toNat
  n == 0x9 || n == 0xA || n == 0xD || (0x20 ≤ n && n ≤ 0x7E) || n == 0x85
    || (0xA0 ≤ n && n ≤ 0xFFFD && n != 0xFEFF) || 0x10000 ≤ n

/-- Whether a text is over or goes on with white space. -/
def atGap : List Char → Bool
  | [] => true
  | c :: _ => isSpace c || isBreak c

/-- Whether a text is over or goes on with the end of a line. -/
def atBreak : List Char → Bool
  | [] => true
  | c :: _ => isBreak c

/-- A place in a text. -/
structure Place where
  rest : List Char
  index : Nat := 0
  line : Nat := 0
  column : Nat := 0

namespace Place

/-- The place some characters on, on the same line. -/
def skip (count : Nat) (place : Place) : Place :=
  { place with
    rest := place.rest.drop count
    index := place.index + count
    column := place.column + count }

/-- The characters of a kind that follow on the same line, and the place after them. -/
def takeWhile (isKind : Char → Bool) (place : Place) : List Char × Place :=
  let taken := place.rest.takeWhile isKind
  (taken, place.skip taken.length)

/-- The place after the characters of a kind that follow on the same line. -/
def skipWhile (isKind : Char → Bool) (place : Place) : Place := (place.takeWhile isKind).2

/-- The end of a line, as it counts in a scalar, and the place after it, when the line ends here. -/
def takeBreak? (place : Place) : Option (Char × Place) :=
  let after (length : Nat) : Place :=
    { rest := place.rest.drop length, index := place.index + length, line := place.line + 1 }
  match place.rest with
  | '\r' :: '\n' :: _ => some ('\n', after 2)
  | c :: _ =>
    if isBreak c then some (if c.toNat = 0x2028 ∨ c.toNat = 0x2029 then c else '\n', after 1)
    else none
  | [] => none

/-- The place after the end of a line, when the line ends here. -/
def skipBreak (place : Place) : Place := (place.takeBreak?.map Prod.snd).getD place

/-- The place after a comment that begins here. -/
def skipComment (place : Place) : Place :=
  if place.rest.head? = some '#' then place.skipWhile (!isBreak ·) else place

/-- Whether a line begins here with one of the two markers of documents. -/
def atMarker (place : Place) : Bool :=
  place.column == 0 &&
    match place.rest with
    | a :: b :: c :: rest => a == b && b == c && (c == '-' || c == '.') && atGap rest
    | _ => false

end Place

end Reconcile.Yaml
