import Reconcile.Pattern.CharSet

/-!
# Patterns

A pattern describes a set of texts.  It is matched by following all ways through a text at
once: a set of places in the text, held as the bits of a natural number, is moved forward by
every part of the pattern.  Repetitions stop as soon as nothing new is reached.
-/

namespace Reconcile

/-- A condition on a place between two characters. -/
inductive Place where
  | textStart
  | textEnd
  /-- The start of a text or of a line; carriage returns end lines too if told so. -/
  | lineStart (returns : Bool)
  | lineEnd (returns : Bool)
  /-- A place with a word character on exactly one side. -/
  | boundary (word : CharSet)
  | noBoundary (word : CharSet)
  | wordStart (word : CharSet)
  | wordEnd (word : CharSet)
  /-- A place without a word character before it. -/
  | wordStartHalf (word : CharSet)
  /-- A place without a word character after it. -/
  | wordEndHalf (word : CharSet)
  deriving Repr, Inhabited

/-- A description of a set of texts. -/
inductive Pattern where
  | empty
  | chars (set : CharSet)
  | place (condition : Place)
  | seq (first second : Pattern)
  | alt (left right : Pattern)
  /-- Some number of times, at least `least` and at most `most`. -/
  | times (body : Pattern) (least : Nat) (most : Option Nat)
  deriving Repr, Inhabited

namespace Place

/-- Whether a place satisfies a condition, given the characters before and after it. -/
def holds (before after : Option Char) : Place → Bool
  | .textStart => before.isNone
  | .textEnd => after.isNone
  | .lineStart returns =>
    before.isNone || before == some '\n' || returns && before == some '\r' && after != some '\n'
  | .lineEnd returns =>
    after.isNone || after == some '\r' && returns
      || after == some '\n' && !(returns && before == some '\r')
  | .boundary word => inWord word before != inWord word after
  | .noBoundary word => inWord word before == inWord word after
  | .wordStart word => !inWord word before && inWord word after
  | .wordEnd word => inWord word before && !inWord word after
  | .wordStartHalf word => !inWord word before
  | .wordEndHalf word => !inWord word after
where
  /-- Whether there is a character and it belongs to words. -/
  inWord (word : CharSet) : Option Char → Bool
    | some c => word.contains c.toNat
    | none => false

end Place

namespace Pattern

/-- The places before characters of a set, as bits. -/
def charBits (set : CharSet) : List Char → Nat
  | [] => 0
  | c :: rest => 2 * charBits set rest + if set.contains c.toNat then 1 else 0

/-- The places that satisfy a condition, as bits, after a given character. -/
def placeBits (condition : Place) (before : Option Char) : List Char → Nat
  | [] => if condition.holds before none then 1 else 0
  | c :: rest =>
    2 * placeBits condition (some c) rest + if condition.holds before (some c) then 1 else 0

/-- Take a step a number of times, or until it changes nothing. -/
def iterate (step : Nat → Nat) : Nat → Nat → Nat
  | 0, places => places
  | count + 1, places =>
    let next := step places
    if next = places then places else iterate step count next

/-- Everything reached by taking a step at most a number of times. -/
def reach (step : Nat → Nat) (count places : Nat) : Nat := iterate (fun s => s ||| step s) count places

/-- The places at the ends of the parts that match from one of the given places on. -/
def run (text : List Char) : Pattern → Nat → Nat
  | .empty, places => places
  | .chars set, places => 2 * (places &&& charBits set text)
  | .place condition, places => places &&& placeBits condition none text
  | .seq first second, places => run text second (run text first places)
  | .alt left right, places => run text left places ||| run text right places
  | .times body least most, places =>
    let start := iterate (run text body) least places
    match most with
    | some most => reach (run text body) (most - least) start
    | none => reach (run text body) (text.length + 1) start

/-- Whether some part of a text matches. -/
def occursIn (pattern : Pattern) (text : String) : Bool :=
  let characters := text.toList
  pattern.run characters (Nat.pow 2 (characters.length + 1) - 1) != 0

end Pattern

end Reconcile
