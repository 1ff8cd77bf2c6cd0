import Reconcile.Number.Reading
import Reconcile.Pattern.Basic

/-!
# Reading patterns

The notation of patterns: literals and escapes, classes with set operations, groups with
flags, alternatives and repetitions.  There are no references back to groups and no looking
around.  A text that is not a pattern is refused as a whole.
-/

namespace Reconcile.Pattern.Reader

/-- The flags in force at a place of a pattern. -/
structure Flags where
  ignoreCase : Bool := false
  multiLine : Bool := false
  dotMatchesNewLine : Bool := false
  carriageReturns : Bool := false
  unicode : Bool := true
  spaced : Bool := false

/-- What a single token stands for. -/
inductive Token where
  | literal (n : Nat)
  | set (set : CharSet)
  | place (condition : Place)

/-- The part of a branch that was read last. -/
inductive Item where
  | pattern (pattern : Pattern)
  /-- A change of flags, which cannot be repeated. -/
  | directive

/-- The characters of words under some flags. -/
def wordSet (flags : Flags) : CharSet := if flags.unicode then .word else .asciiWord

/-- A set with the variants in case of its characters when the flags ask for them. -/
def foldIf (flags : Flags) (set : CharSet) : CharSet := if flags.ignoreCase then .folded set else set

/-- Drop blanks and comments where the flags allow them. -/
def skipSpace (flags : Flags) (text : List Char) : List Char :=
  if flags.spaced then skip (text.length + 1) text else text
where
  /-- Drop blanks and comments. -/
  skip : Nat → List Char → List Char
    | 0, text => text
    | fuel + 1, text =>
      match text.dropWhile Text.isBlank with
      | '#' :: rest => skip fuel (rest.dropWhile (· ≠ '\n'))
      | rest => rest

/-- Whether a number is that of a character. -/
def isScalar (n : Nat) : Bool := n < 0xD800 || 0xE000 ≤ n && n ≤ 0x10FFFF

/-- The rest of an escape by number: some digits, or any number of them in braces. -/
def numbered (count : Nat) (text : List Char) : Option (Nat × List Char) := do
  let (digits, rest) ←
    match text with
    | '\x7b' :: rest =>
      let (digits, rest) := rest.span (· ≠ '\x7d')
      if rest.isEmpty then none else some (digits, rest.drop 1)
    | text => if text.length < count then none else some (text.take count, text.drop count)
  let n ← natOfBase? 16 digits
  if isScalar n then some (n, rest) else none

/-- The rest of an escape of a property: a letter, or a name in braces. -/
def property (text : List Char) : Option (CharSet × List Char) := do
  match text with
  | '\x7b' :: rest =>
    let (name, rest) := rest.span (· ≠ '\x7d')
    if rest.isEmpty then none
    let rest := rest.drop 1
    match Text.breakOn ['!', '='] name with
    | some (name, value) => return (.complement (← CharSet.valued? name value), rest)
    | none =>
      match Text.breakOn ['='] name, Text.breakOn [':'] name with
      | some (name, value), _ | none, some (name, value) => return (← CharSet.valued? name value, rest)
      | none, none => return (← CharSet.property? name, rest)
  | letter :: rest => return (← CharSet.category? [letter], rest)
  | [] => none

/-- The conditions on places that are written as a name in braces after a boundary. -/
def namedBoundary? (word : CharSet) (name : List Char) : Option Place :=
  if name = "start".toList then some (.wordStart word)
  else if name = "end".toList then some (.wordEnd word)
  else if name = "start-half".toList then some (.wordStartHalf word)
  else if name = "end-half".toList then some (.wordEndHalf word)
  else none

/-- A set of a single-letter escape, or its complement when the letter is a capital. -/
def perlSet (flags : Flags) (letter : Char) (set asciiSet : CharSet) : Option Token :=
  let negated := 'A' ≤ letter && letter ≤ 'Z'
  if flags.unicode then some (.set (if negated then .complement set else set))
  else if negated then none
  else some (.set asciiSet)

/-- The token of an escape whose backslash has been read. -/
def escape (flags : Flags) (text : List Char) : Option (Token × List Char) := do
  let letter :: rest := text | none
  match letter with
  | 'x' =>
    let (n, rest) ← numbered 2 rest
    return (.literal n, rest)
  | 'u' =>
    let (n, rest) ← numbered 4 rest
    return (.literal n, rest)
  | 'U' =>
    let (n, rest) ← numbered 8 rest
    return (.literal n, rest)
  | 'p' =>
    let (set, rest) ← property rest
    return (.set (foldIf flags set), rest)
  | 'P' =>
    let (set, rest) ← property rest
    return (.set (.complement (foldIf flags set)), rest)
  | 'd' | 'D' => return (← perlSet flags letter .digits .asciiDigits, rest)
  | 's' | 'S' => return (← perlSet flags letter .blank .asciiBlank, rest)
  | 'w' | 'W' => return (← perlSet flags letter .word .asciiWord, rest)
  | 'a' => return (.literal 0x7, rest)
  | 'f' => return (.literal 0xC, rest)
  | 't' => return (.literal 0x9, rest)
  | 'n' => return (.literal 0xA, rest)
  | 'r' => return (.literal 0xD, rest)
  | 'v' => return (.literal 0xB, rest)
  | 'A' => return (.place .textStart, rest)
  | 'z' => return (.place .textEnd, rest)
  | 'B' => return (.place (.noBoundary (wordSet flags)), rest)
  | '<' => return (.place (.wordStart (wordSet flags)), rest)
  | '>' => return (.place (.wordEnd (wordSet flags)), rest)
  | 'b' =>
    match rest with
    | '\x7b' :: after =>
      let (name, after) := after.span (· ≠ '\x7d')
      match namedBoundary? (wordSet flags) name with
      | some condition => if after.isEmpty then none else return (.place condition, after.drop 1)
      | none => return (.place (.boundary (wordSet flags)), rest)
    | rest => return (.place (.boundary (wordSet flags)), rest)
  | letter =>
    let plain :=
      letter.toNat < 128 && !(isDigit letter || ('a' ≤ letter && letter ≤ 'z') || ('A' ≤ letter && letter ≤ 'Z'))
    if plain then return (.literal letter.toNat, rest) else none

/-! ### Classes -/

/-- The class of a name between colons in brackets, whose opening has been read. -/
def namedClass (text : List Char) : Option (CharSet × List Char) := do
  let ':' :: rest := text | none
  let (negated, rest) :=
    match rest with
    | '^' :: rest => (true, rest)
    | rest => (false, rest)
  let (name, rest) ← Text.breakOn [':', ']'] rest
  let set ← CharSet.named? (String.ofList name)
  return (if negated then .complement set else set, rest)

/-- A character or an escape in a class. -/
def classItem (flags : Flags) (text : List Char) : Option (Token × List Char) :=
  match text with
  | [] => none
  | '\\' :: rest =>
    match escape flags rest with
    | some (.place _, _) => none
    | other => other
  | c :: rest => some (.literal c.toNat, rest)

/-- A single item of a class, or a range between two. -/
def classRange (flags : Flags) (text : List Char) : Option (CharSet × List Char) := do
  let (first, rest) ← classItem flags text
  let rest := skipSpace flags rest
  let setOf : Token → CharSet
    | .literal n => .single n
    | .set set => set
    | .place _ => .empty
  match rest with
  | [] => none
  | '-' :: after =>
    let after := skipSpace flags after
    match after with
    | ']' :: _ | '-' :: _ => return (setOf first, rest)
    | after =>
      let (last, after) ← classItem flags after
      match first, last with
      | .literal m, .literal n => if m ≤ n then return (.range m n, after) else none
      | _, _ => none
  | rest => return (setOf first, rest)

/-- An operation on sets in a class. -/
inductive SetOperation where
  | intersection
  | difference
  | symmetricDifference

/-- The set so far: the left side and operation that wait for their right side, and the union that
is being read. -/
structure ClassState where
  pending : Option (CharSet × SetOperation) := none
  current : CharSet := .empty

/-- The set of what has been read of a class. -/
def ClassState.finish (flags : Flags) (state : ClassState) : CharSet :=
  match state.pending with
  | none => state.current
  | some (left, .intersection) => .intersection (foldIf flags left) (foldIf flags state.current)
  | some (left, .difference) => (foldIf flags left).difference (foldIf flags state.current)
  | some (left, .symmetricDifference) =>
    (foldIf flags left).symmetricDifference (foldIf flags state.current)

/-- Add a set to the union that is being read. -/
def ClassState.add (state : ClassState) (set : CharSet) : ClassState :=
  { state with current := .union state.current set }

/-- Make what has been read the left side of an operation. -/
def ClassState.operate (flags : Flags) (operation : SetOperation) (state : ClassState) : ClassState :=
  { pending := some (state.finish flags, operation) }

/-- The start of a class: a mark of negation, and hyphens or a bracket that stand for themselves. -/
def classStart (flags : Flags) (text : List Char) : Bool × ClassState × List Char :=
  let text := skipSpace flags text
  let (negated, text) :=
    match text with
    | '^' :: rest => (true, skipSpace flags rest)
    | rest => (false, rest)
  let hyphens := text.takeWhile (· = '-')
  let state : ClassState := if hyphens.isEmpty then {} else { current := .single '-'.toNat }
  match text.drop hyphens.length with
  | ']' :: rest =>
    if hyphens.isEmpty then (negated, state.add (.single ']'.toNat), rest)
    else (negated, state, ']' :: rest)
  | rest => (negated, state, rest)

mutual

/-- A class whose opening bracket has been read. -/
def readClass (flags : Flags) : Nat → List Char → Option (CharSet × List Char)
  | 0, _ => none
  | fuel + 1, text => do
    let (negated, state, rest) := classStart flags text
    let (set, rest) ← classRest flags fuel state rest
    let set := foldIf flags set
    if negated then
      if flags.unicode then return (.complement set, rest) else none
    else return (set, rest)

/-- The items of a class up to its closing bracket. -/
def classRest (flags : Flags) : Nat → ClassState → List Char → Option (CharSet × List Char)
  | 0, _, _ => none
  | fuel + 1, state, text =>
    match skipSpace flags text with
    | [] => none
    | '[' :: rest =>
      match namedClass rest with
      | some (set, rest) => classRest flags fuel (state.add set) rest
      | none => do
        let (set, rest) ← readClass flags fuel rest
        classRest flags fuel (state.add set) rest
    | ']' :: rest => some (state.finish flags, rest)
    | '&' :: '&' :: rest => classRest flags fuel (state.operate flags .intersection) rest
    | '-' :: '-' :: rest => classRest flags fuel (state.operate flags .difference) rest
    | '~' :: '~' :: rest => classRest flags fuel (state.operate flags .symmetricDifference) rest
    | text => do
      let (set, rest) ← classRange flags text
      classRest flags fuel (state.add set) rest

end

/-! ### Groups and repetitions -/

/-- The flags of a group or directive, up to a colon or the closing parenthesis; whether it was
the colon. -/
def readFlags (flags : Flags) : Nat → Bool → Bool → List Char → Option (Flags × Bool × List Char)
  | 0, _, _, _ => none
  | fuel + 1, negated, any, text =>
    match text with
    | ':' :: rest => if negated && !any then none else some (flags, true, rest)
    | ')' :: rest => if !any then none else some (flags, false, rest)
    | '-' :: rest => if negated then none else readFlags flags fuel true false rest
    | 'i' :: rest => readFlags { flags with ignoreCase := !negated } fuel negated true rest
    | 'm' :: rest => readFlags { flags with multiLine := !negated } fuel negated true rest
    | 's' :: rest => readFlags { flags with dotMatchesNewLine := !negated } fuel negated true rest
    | 'R' :: rest => readFlags { flags with carriageReturns := !negated } fuel negated true rest
    | 'u' :: rest => readFlags { flags with unicode := !negated } fuel negated true rest
    | 'x' :: rest => readFlags { flags with spaced := !negated } fuel negated true rest
    | 'U' :: rest => readFlags flags fuel negated true rest
    | _ => none

/-- Whether the characters of flags up to the end of their list differ from each other. -/
def flagsDiffer (text : List Char) : Bool :=
  let marks := text.takeWhile fun c => c ≠ ':' && c ≠ ')'
  marks.eraseDups.length == marks.length

/-- The name of a group up to its closing mark. -/
def groupName (text : List Char) : Option (String × List Char) := do
  let (name, rest) := text.span (· ≠ '>')
  let first :: others := name | none
  if rest.isEmpty then none
  let starts := first = '_' || CharSet.contains .alphabetic first.toNat
  let continues (c : Char) : Bool :=
    c = '_' || c = '.' || c = '[' || c = ']' || CharSet.contains .alphabetic c.toNat
      || CharSet.contains (.inCategory "N") c.toNat
  if starts && others.all continues then return (String.ofList name, rest.drop 1) else none

/-- A decimal number between blanks. -/
def decimal (text : List Char) : Option (Nat × List Char) := do
  let (digits, rest) := (text.dropWhile Text.isBlank).span isDigit
  let n ← natOfBase? 10 digits
  if n < Nat.pow 2 32 then return (n, rest.dropWhile Text.isBlank) else none

/-- The bounds of a counted repetition whose opening brace has been read. -/
def bounds (text : List Char) : Option (Nat × Option Nat × List Char) := do
  let (least, rest) ← decimal text
  match rest with
  | '\x7d' :: rest => return (least, some least, rest)
  | ',' :: rest =>
    match rest.dropWhile Text.isBlank with
    | '\x7d' :: rest => return (least, none, rest)
    | rest =>
      let (most, rest) ← decimal rest
      match rest with
      | '\x7d' :: rest => if least ≤ most then return (least, some most, rest) else none
      | _ => none
  | _ => none

/-- Repeat what was read last. -/
def repeatLast (least : Nat) (most : Option Nat) : List Item → Option (List Item)
  | .pattern body :: items => some (.pattern (.times body least most) :: items)
  | _ => none

/-- Drop the mark of a repetition that prefers few. -/
def dropLazy : List Char → List Char
  | '?' :: rest => rest
  | rest => rest

/-- The pattern of a branch, whose items are given last first. -/
def branch (items : List Item) : Pattern :=
  items.foldl (fun later item =>
    match item with
    | .pattern pattern => .seq pattern later
    | .directive => later) .empty

/-- The pattern of some branches, given last first. -/
def branches : List Pattern → Pattern
  | [] => .empty
  | [only] => only
  | last :: earlier => .alt (branches earlier) last

/-- The set that a dot stands for. -/
def dotSet (flags : Flags) : Option CharSet :=
  if !flags.unicode then none
  else if flags.dotMatchesNewLine then some .all
  else if flags.carriageReturns then some (.complement (.union (.single 0xA) (.single 0xD)))
  else some (.complement (.single 0xA))

/-- What has been read and what is left to read. -/
structure State where
  names : List String
  rest : List Char

/-- The alternatives of a group, `depth` groups below the greatest depth allowed, up to its closing
parenthesis, or up to the end of the text outside all groups. -/
def alternatives (inGroup : Bool) : Nat → Nat → Flags → List Item → List Pattern → State →
    Option (Pattern × State)
  | 0, _, _, _, _, _ => none
  | fuel + 1, depth, flags, items, earlier, state =>
    let names := state.names
    let finish : Pattern := branches (branch items :: earlier)
    let go (items : List Item) (rest : List Char) :=
      alternatives inGroup fuel depth flags items earlier ⟨names, rest⟩
    let again (least : Nat) (most : Option Nat) (rest : List Char) := do
      let items ← repeatLast least most items
      go items (dropLazy (skipSpace flags rest))
    let group (flags' : Flags) (names : List String) (rest : List Char) :=
      match depth with
      | 0 => none
      | depth' + 1 => do
        let (body, state) ← alternatives true fuel depth' flags' [] [] ⟨names, rest⟩
        alternatives inGroup fuel depth flags (.pattern body :: items) earlier state
    match skipSpace flags state.rest with
    | [] => if inGroup then none else some (finish, ⟨names, []⟩)
    | ')' :: rest => if inGroup then some (finish, ⟨names, rest⟩) else none
    | '|' :: rest =>
      alternatives inGroup fuel depth flags [] (branch items :: earlier) ⟨names, rest⟩
    | '*' :: rest => again 0 none rest
    | '+' :: rest => again 1 none rest
    | '?' :: rest => again 0 (some 1) rest
    | '\x7b' :: rest => do
      let (least, most, rest) ← bounds rest
      again least most rest
    | '(' :: '?' :: 'P' :: '<' :: rest | '(' :: '?' :: '<' :: rest => do
      let (name, rest) ← groupName rest
      if names.contains name then none else group flags (name :: names) rest
    | '(' :: '?' :: rest =>
      if !flagsDiffer rest then none
      else
        match rest with
        | ':' :: rest => group flags names rest
        | rest => do
          let (flags', opens, rest) ← readFlags flags (rest.length + 1) false false rest
          if opens then group flags' names rest
          else alternatives inGroup fuel depth flags' (.directive :: items) earlier ⟨names, rest⟩
    | '(' :: rest => group flags names rest
    | '[' :: rest => do
      let (set, rest) ← readClass flags (rest.length + 1) rest
      go (.pattern (.chars set) :: items) rest
    | '.' :: rest => do
      let set ← dotSet flags
      go (.pattern (.chars set) :: items) rest
    | '^' :: rest =>
      let place : Place := if flags.multiLine then .lineStart flags.carriageReturns else .textStart
      go (.pattern (.place place) :: items) rest
    | '$' :: rest =>
      let place : Place := if flags.multiLine then .lineEnd flags.carriageReturns else .textEnd
      go (.pattern (.place place) :: items) rest
    | '\\' :: rest => do
      let (token, rest) ← escape flags rest
      match token with
      | .literal n => go (.pattern (.chars (foldIf flags (.single n))) :: items) rest
      | .set set => go (.pattern (.chars set) :: items) rest
      | .place condition => go (.pattern (.place condition) :: items) rest
    | c :: rest => go (.pattern (.chars (foldIf flags (.single c.toNat))) :: items) rest

end Reconcile.Pattern.Reader

namespace Reconcile

/-- The greatest number of groups inside each other. -/
def Pattern.depthLimit : Nat := 249

/-- The pattern that a text writes. -/
def Pattern.ofText? (text : String) : Option Pattern :=
  (Pattern.Reader.alternatives false (2 * text.toList.length + 2) Pattern.depthLimit {} [] []
    ⟨[], text.toList⟩).map (·.1)

/-- The pattern of the texts that match another pattern as a whole; the other is put between
marks before it is read. -/
def Pattern.whole? (text : String) : Option Pattern := Pattern.ofText? ("^(?:" ++ text ++ ")$")

end Reconcile
