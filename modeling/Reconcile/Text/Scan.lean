/-!
# Scanning text

Searching, splitting and trimming of texts, on their lists of characters.  A blank is a
character with the property White_Space.
-/

namespace Reconcile.Text

/-- Whether a character is white space. -/
def isBlank (c : Char) : Bool :=
  let n := c.toNat
  (0x9 ≤ n && n ≤ 0xD) || n == 0x20 || n == 0x85 || n == 0xA0 || n == 0x1680
    || (0x2000 ≤ n && n ≤ 0x200A) || n == 0x2028 || n == 0x2029 || n == 0x202F
    || n == 0x205F || n == 0x3000

/-- Drop the white space at both ends. -/
def trim (text : List Char) : List Char :=
  ((text.dropWhile isBlank).reverse.dropWhile isBlank).reverse

/-- The text before and after the first occurrence of a pattern. -/
def breakOn (pattern : List Char) : List Char → Option (List Char × List Char)
  | [] => if pattern.isEmpty then some ([], []) else none
  | c :: rest =>
    if pattern.isPrefixOf (c :: rest) then some ([], (c :: rest).drop pattern.length)
    else (breakOn pattern rest).map fun parts => (c :: parts.1, parts.2)

theorem breakOn_length {pattern text before after : List Char}
    (h : breakOn pattern text = some (before, after)) :
  before.length + after.length + pattern.length ≤ text.length
  := by
  induction text generalizing before after with
  | nil =>
    simp only [breakOn] at h
    split at h
    · next empty =>
      simp only [Option.some.injEq, Prod.mk.injEq] at h
      simp [← h.1, ← h.2, List.isEmpty_iff.mp empty]
    · contradiction
  | cons c rest ih =>
    simp only [breakOn] at h
    split at h
    · next found =>
      simp only [Option.some.injEq, Prod.mk.injEq] at h
      have := (List.isPrefixOf_iff_prefix.mp found).length_le
      simp only [← h.1, ← h.2, List.length_drop, List.length_nil]
      omega
    · obtain ⟨parts, hp, he⟩ := Option.map_eq_some_iff.mp h
      simp only [Prod.mk.injEq] at he
      have := @ih parts.1 parts.2 hp
      simp only [← he.1, ← he.2, List.length_cons]
      omega

/-- The parts of a text between the occurrences of a delimiter; the whole text when the delimiter is empty. -/
def splitOn (delimiter text : List Char) : List (List Char) :=
  if _nonempty : delimiter = [] then [text]
  else
    match _found : breakOn delimiter text with
    | none => [text]
    | some (before, after) => before :: splitOn delimiter after
termination_by text.length
decreasing_by
  have := breakOn_length _found
  have := List.length_pos_iff.mpr _nonempty
  omega

/-- The text before and after the first occurrence of a character. -/
def splitOnce (separator : Char) (text : String) : Option (String × String) :=
  (breakOn [separator] text.toList).map fun parts => (String.ofList parts.1, String.ofList parts.2)

/-- The parts of a text between the occurrences of a nonempty delimiter. -/
def split (delimiter text : String) : List String :=
  (splitOn delimiter.toList text.toList).map String.ofList

/-- Write `replacement` for every occurrence of `pattern`. -/
def replace (pattern replacement text : String) : String :=
  String.intercalate replacement (split pattern text)

/-- Drop the white space at both ends of a text. -/
def strip (text : String) : String := String.ofList (trim text.toList)

/-- The words of a text: what stands between its white space. -/
def words (text : String) : List String :=
  let add (word : List Char) (words : List String) : List String :=
    if word.isEmpty then words else String.ofList word :: words
  let (first, rest) := text.toList.foldr (fun c (word, words) =>
    if isBlank c then ([], add word words) else (c :: word, words)) ([], [])
  add first rest

/-- Whether a text begins with another. -/
def startsWith (text beginning : String) : Bool := beginning.toList.isPrefixOf text.toList

/-- The lower case of a letter among the first 128 characters. -/
def asciiLower (c : Char) : Char := if 'A' ≤ c && c ≤ 'Z' then Char.ofNat (c.toNat + 32) else c

/-- Two texts are equal but for the case of letters among the first 128 characters. -/
def sameAsciiCase (left right : String) : Bool :=
  left.toList.map asciiLower == right.toList.map asciiLower

end Reconcile.Text
