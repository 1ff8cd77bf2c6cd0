import Reconcile.Pattern.Category
import Reconcile.Pattern.Folding
import Reconcile.Pattern.Script
import Reconcile.Table
import Reconcile.Text.Scan

/-!
# Sets of characters

The sets of characters that patterns are made of: ranges, categories of the standard, and
what set operations and the closure under case make of them.
-/

namespace Reconcile

/-- A set of characters, which are given by their numbers. -/
inductive CharSet where
  | empty
  | range (first last : Nat)
  /-- The characters of the general categories whose names begin with the given one. -/
  | inCategory (name : String)
  /-- The white space. -/
  | blank
  | union (left right : CharSet)
  | intersection (left right : CharSet)
  | complement (set : CharSet)
  /-- All characters that differ only in case from one of the set. -/
  | folded (set : CharSet)
  deriving DecidableEq, Repr, Inhabited

namespace CharSet

/-- Whether a character lies in a set. -/
def contains : CharSet → Nat → Bool
  | .empty, _ => false
  | .range first last, n => first ≤ n && n ≤ last
  | .inCategory name, n => Text.startsWith (category (Char.ofNat n)) name
  | .blank, n => Text.isBlank (Char.ofNat n)
  | .union left right, n => left.contains n || right.contains n
  | .intersection left right, n => left.contains n && right.contains n
  | .complement set, n => !set.contains n
  | .folded set, n => (caseVariants n).any fun m => set.contains m

/-- The set of one character. -/
def single (n : Nat) : CharSet := .range n n

/-- The union of some sets. -/
def unionOf (sets : List CharSet) : CharSet := sets.foldr .union .empty

/-- The characters of the first set that are not in the second. -/
def difference (left right : CharSet) : CharSet := .intersection left (.complement right)

/-- The characters of exactly one of two sets. -/
def symmetricDifference (left right : CharSet) : CharSet :=
  .union (left.difference right) (right.difference left)

/-- All characters. -/
def all : CharSet := .range 0 0x10FFFF

/-- The letters: everything alphabetic. -/
def alphabetic : CharSet :=
  unionOf [.inCategory "L", .inCategory "Nl", .range 0x24B6 0x24E9, .range 0x1F130 0x1F149,
    .range 0x1F150 0x1F169, .range 0x1F170 0x1F189]

/-- The decimal digits of all scripts. -/
def digits : CharSet := .inCategory "Nd"

/-- The characters of words. -/
def word : CharSet :=
  unionOf [alphabetic, .inCategory "M", digits, .inCategory "Pc", .range 0x200C 0x200D]

/-- The decimal digits among the first 128 characters. -/
def asciiDigits : CharSet := .range 0x30 0x39

/-- The characters of words among the first 128 characters. -/
def asciiWord : CharSet :=
  unionOf [.range 0x41 0x5A, .range 0x61 0x7A, asciiDigits, single 0x5F]

/-- The white space among the first 128 characters. -/
def asciiBlank : CharSet := .union (.range 0x9 0xD) (single 0x20)

/-- The named classes of characters among the first 128. -/
def named? : String → Option CharSet
  | "alnum" => some (unionOf [.range 0x30 0x39, .range 0x41 0x5A, .range 0x61 0x7A])
  | "alpha" => some (.union (.range 0x41 0x5A) (.range 0x61 0x7A))
  | "ascii" => some (.range 0 0x7F)
  | "blank" => some (.union (single 0x9) (single 0x20))
  | "cntrl" => some (.union (.range 0 0x1F) (single 0x7F))
  | "digit" => some asciiDigits
  | "graph" => some (.range 0x21 0x7E)
  | "lower" => some (.range 0x61 0x7A)
  | "print" => some (.range 0x20 0x7E)
  | "punct" =>
    some (unionOf [.range 0x21 0x2F, .range 0x3A 0x40, .range 0x5B 0x60, .range 0x7B 0x7E])
  | "space" => some asciiBlank
  | "upper" => some (.range 0x41 0x5A)
  | "word" => some asciiWord
  | "xdigit" => some (unionOf [.range 0x30 0x39, .range 0x41 0x46, .range 0x61 0x66])
  | _ => none

/-- The general categories by their long names, in lower case and without separators. -/
def categoryNames : List (String × List String) := [
  ("letter", ["L"]), ("casedletter", ["Lu", "Ll", "Lt"]), ("lc", ["Lu", "Ll", "Lt"]),
  ("uppercaseletter", ["Lu"]), ("lowercaseletter", ["Ll"]), ("titlecaseletter", ["Lt"]),
  ("modifierletter", ["Lm"]), ("otherletter", ["Lo"]), ("mark", ["M"]), ("combiningmark", ["M"]),
  ("nonspacingmark", ["Mn"]), ("spacingmark", ["Mc"]), ("enclosingmark", ["Me"]), ("number", ["N"]),
  ("decimalnumber", ["Nd"]), ("digit", ["Nd"]), ("letternumber", ["Nl"]), ("othernumber", ["No"]),
  ("punctuation", ["P"]), ("punct", ["P"]), ("connectorpunctuation", ["Pc"]),
  ("dashpunctuation", ["Pd"]), ("openpunctuation", ["Ps"]), ("closepunctuation", ["Pe"]),
  ("initialpunctuation", ["Pi"]), ("finalpunctuation", ["Pf"]), ("otherpunctuation", ["Po"]),
  ("symbol", ["S"]), ("mathsymbol", ["Sm"]), ("currencysymbol", ["Sc"]), ("modifiersymbol", ["Sk"]),
  ("othersymbol", ["So"]), ("separator", ["Z"]), ("spaceseparator", ["Zs"]),
  ("lineseparator", ["Zl"]), ("paragraphseparator", ["Zp"]), ("other", ["C"]), ("control", ["Cc"]),
  ("cntrl", ["Cc"]), ("format", ["Cf"]), ("surrogate", ["Cs"]), ("privateuse", ["Co"]),
  ("unassigned", ["Cn"])]

/-- The short names of the general categories and of their groups. -/
def shortCategoryNames : List String := [
  "L", "Lu", "Ll", "Lt", "Lm", "Lo", "M", "Mn", "Mc", "Me", "N", "Nd", "Nl", "No", "P", "Pc", "Pd",
  "Ps", "Pe", "Pi", "Pf", "Po", "S", "Sm", "Sc", "Sk", "So", "Z", "Zs", "Zl", "Zp", "C", "Cc", "Cf",
  "Cs", "Co", "Cn"]

/-- The name of a property in lower case and without blanks, hyphens and underscores. -/
def normalName (name : List Char) : List Char :=
  (name.filter fun c => !(c = ' ' || c = '-' || c = '_')).map Text.asciiLower

/-- The general category with a name. -/
def category? (name : List Char) : Option CharSet :=
  let name := normalName name
  match shortCategoryNames.find? fun short => short.toList.map Text.asciiLower = name with
  | some short => some (.inCategory short)
  | none =>
    (lookup (String.ofList name) categoryNames).map fun names => unionOf (names.map .inCategory)

/-- The script with a name. -/
def inScript? (name : List Char) : Option CharSet :=
  (script? (String.ofList (normalName name))).map fun ranges => unionOf (ranges.map fun (first, last) => range first last)

/-- The capital letters, and what counts as such. -/
def uppercase : CharSet :=
  unionOf [.inCategory "Lu", .range 0x2160 0x216F, .range 0x24B6 0x24CF, .range 0x1F130 0x1F149,
    .range 0x1F150 0x1F169, .range 0x1F170 0x1F189]

/-- The small letters, and what counts as such. -/
def lowercase : CharSet :=
  unionOf [.inCategory "Ll", single 0xAA, single 0xBA, .range 0x2B0 0x2B8, .range 0x2C0 0x2C1,
    .range 0x2E0 0x2E4, single 0x345, single 0x37A, .range 0x1D2C 0x1D6A, single 0x1D78,
    .range 0x1D9B 0x1DBF, single 0x2071, single 0x207F, .range 0x2090 0x209C, .range 0x2170 0x217F,
    .range 0x24D0 0x24E9, .range 0x2C7C 0x2C7D, .range 0xA69C 0xA69D, single 0xA770,
    .range 0xA7F8 0xA7F9, .range 0xAB5C 0xAB5F]

/-- The property with a name: a general category, a script or a property of its own. -/
def property? (name : List Char) : Option CharSet :=
  let known : List (String × CharSet) := [
    ("any", all), ("ascii", .range 0 0x7F), ("assigned", .complement (.inCategory "Cn")),
    ("alphabetic", .union alphabetic (.inCategory "M")), ("alpha", .union alphabetic (.inCategory "M")),
    ("whitespace", .blank), ("wspace", .blank), ("space", .blank), ("uppercase", uppercase),
    ("upper", uppercase), ("lowercase", lowercase), ("lower", lowercase)]
  match category? name, inScript? name with
  | some set, _ => some set
  | none, some set => some set
  | none, none => (known.find? fun entry => entry.1.toList = normalName name).map (·.2)

/-- The characters for which a property has a value. -/
def valued? (name value : List Char) : Option CharSet :=
  match String.ofList (normalName name) with
  | "gc" | "generalcategory" => category? value
  | "sc" | "script" | "scx" | "scriptextensions" => inScript? value
  | _ => none

end CharSet

end Reconcile
