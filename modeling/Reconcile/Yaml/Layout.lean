import Reconcile.Yaml.Mark
import Reconcile.Yaml.Scalar

/-!
# Layout of YAML texts

A text becomes the list of its tokens.  The indentation of block collections counts as tokens that
begin and end them.  Whether a node on one line is a key shows only when a colon follows it; then
the token for a key is entered before the tokens of that node.
-/

namespace Reconcile.Yaml

/-- A node that turns out to be a key if a colon follows it on the same line. -/
structure Candidate where
  /-- Where the node begins. -/
  place : Place
  /-- The number of tokens before it. -/
  before : Nat
  /-- Whether it has to be a key, since it stands at the indentation of a block mapping. -/
  required : Bool

/-- A text, of which some tokens have been read. -/
structure Layout where
  place : Place
  /-- The tokens read so far, last first. -/
  tokens : List Token := []
  count : Nat := 0
  /-- The columns of the open block collections, innermost first. -/
  indents : List Nat := []
  /-- Whether a key may begin here. -/
  keyAllowed : Bool := true
  /-- The candidate among what is directly in the innermost open collection. -/
  candidate : Option Candidate := none
  /-- The candidates of the collections around the open flow collections, innermost first. -/
  outer : List (Option Candidate) := []

namespace Layout

/-- Whether a flow collection is open. -/
def inFlow (layout : Layout) : Bool := !layout.outer.isEmpty

/-- The column at which the lines of a node inside the innermost block collection may begin. -/
def innerColumn (layout : Layout) : Nat :=
  match layout.indents with
  | [] => 0
  | indent :: _ => indent + 1

/-- Add a token. -/
def add (token : Token) (layout : Layout) : Layout :=
  { layout with tokens := token :: layout.tokens, count := layout.count + 1 }

/-- Enter a token before which a number of tokens stand. -/
def insert (before : Nat) (token : Token) (layout : Layout) : Layout :=
  let late := layout.count - before
  { layout with
    tokens := layout.tokens.take late ++ token :: layout.tokens.drop late
    count := layout.count + 1 }

/-- Add a token that is written by some characters here. -/
def take (length : Nat) (token : Token) (layout : Layout) : Layout :=
  { layout.add token with place := layout.place.skip length }

/-- End the block collections that are indented deeper than a column. -/
def unroll (column : Nat) (layout : Layout) : Layout :=
  if layout.inFlow then layout
  else
    let (deeper, indents) := layout.indents.span (column < ·)
    { layout with
      tokens := List.replicate deeper.length .blockEnd ++ layout.tokens
      count := layout.count + deeper.length
      indents }

/-- End all block collections. -/
def unrollAll (layout : Layout) : Layout :=
  if layout.inFlow then layout
  else
    { layout with
      tokens := List.replicate layout.indents.length .blockEnd ++ layout.tokens
      count := layout.count + layout.indents.length
      indents := [] }

/-- Begin a block collection at a column before which a number of tokens stand, unless one begins there already. -/
def roll (column before : Nat) (token : Token) (layout : Layout) : Layout :=
  if layout.inFlow || !layout.indents.head?.all (· < column) then layout
  else { layout.insert before token with indents := column :: layout.indents }

/-- Give up the candidate for a key. -/
def giveUp (layout : Layout) : Except String Layout :=
  if layout.candidate.any Candidate.required then .error "could not find expected ':'"
  else .ok { layout with candidate := none }

/-- Give up the candidates for keys that have become too long or whose line has ended. -/
def giveUpStale (layout : Layout) : Except String Layout :=
  let stale (candidate : Candidate) : Bool :=
    candidate.place.line < layout.place.line || candidate.place.index + 1024 < layout.place.index
  let candidates := layout.candidate :: layout.outer
  if candidates.any fun candidate => candidate.any fun c => c.required && stale c then
    .error "could not find expected ':'"
  else
    let keep (candidate : Option Candidate) : Option Candidate := candidate.filter (!stale ·)
    .ok { layout with candidate := keep layout.candidate, outer := layout.outer.map keep }

/-- Note that a key may begin here. -/
def note (layout : Layout) : Except String Layout :=
  if layout.keyAllowed then do
    let required := !layout.inFlow && layout.indents.head? == some layout.place.column
    let layout ← layout.giveUp
    return { layout with candidate := some ⟨layout.place, layout.count, required⟩ }
  else .ok layout

/-- Skip white space, the ends of lines and comments.  Tabs count as white space only where no
indentation is read. -/
def skipGap : Nat → Layout → Layout
  | 0, layout => layout
  | fuel + 1, layout =>
    let tabs := layout.inFlow || !layout.keyAllowed
    let place := (layout.place.skipWhile fun c => c == ' ' || (tabs && c == '\t')).skipComment
    match place.takeBreak? with
    | some (_, place) => skipGap fuel { layout with place, keyAllowed := !layout.inFlow || layout.keyAllowed }
    | none => { layout with place }

/-- Open a flow collection. -/
def openFlow (token : Token) (layout : Layout) : Except String Layout := do
  let layout ← layout.note
  return { layout.take 1 token with
    keyAllowed := true, candidate := none, outer := layout.candidate :: layout.outer }

/-- Close a flow collection. -/
def closeFlow (token : Token) (layout : Layout) : Except String Layout := do
  let layout ← layout.giveUp
  let layout := { layout.take 1 token with keyAllowed := false }
  match layout.outer with
  | candidate :: outer => return { layout with candidate, outer }
  | [] => return layout

/-- An item of a block sequence. -/
def blockItem (layout : Layout) : Except String Layout := do
  if !layout.inFlow && !layout.keyAllowed then
    .error "block sequence entries are not allowed in this context"
  else
    let layout ← (layout.roll layout.place.column layout.count .blockSequence).giveUp
    return { layout.take 1 .item with keyAllowed := true }

/-- A key that is marked as such. -/
def markedKey (layout : Layout) : Except String Layout := do
  if !layout.inFlow && !layout.keyAllowed then .error "mapping keys are not allowed in this context"
  else
    let layout ← (layout.roll layout.place.column layout.count .blockMapping).giveUp
    return { layout.take 1 .key with keyAllowed := !layout.inFlow }

/-- A colon; the candidate before it is its key. -/
def markedValue (layout : Layout) : Except String Layout :=
  match layout.candidate with
  | some key =>
    let layout := (layout.insert key.before .key).roll key.place.column key.before .blockMapping
    .ok { layout.take 1 .value with keyAllowed := false, candidate := none }
  | none =>
    if !layout.inFlow && !layout.keyAllowed then .error "mapping values are not allowed in this context"
    else
      let layout := layout.roll layout.place.column layout.count .blockMapping
      .ok { layout.take 1 .value with keyAllowed := !layout.inFlow }

/-- A token at which a key may begin, and which no key may follow directly. -/
def leaf (read : Place → Except String (Token × Place)) (layout : Layout) : Except String Layout := do
  let layout ← layout.note
  let (token, place) ← read layout.place
  return { layout.add token with place, keyAllowed := false }

/-- A plain scalar; a key may follow when a line ends behind it. -/
def plain (layout : Layout) : Except String Layout := do
  let layout ← layout.note
  let (text, ended, place) ← plainScalar layout.inFlow layout.innerColumn layout.place
  return { layout.add (.scalar .plain text) with place, keyAllowed := ended }

/-- A block scalar. -/
def block (isLiteral : Bool) (layout : Layout) : Except String Layout := do
  let layout ← layout.giveUp
  let (text, place) ← blockScalar isLiteral layout.innerColumn layout.place
  let style := if isLiteral then Style.literal else .folded
  return { layout.add (.scalar style text) with place, keyAllowed := true }

/-- A token at the beginning of a line that ends all collections. -/
def atMargin (token : Token) (place : Place) (layout : Layout) : Except String Layout := do
  let layout ← layout.unrollAll.giveUp
  return { layout.add token with place, keyAllowed := false }

/-- Whether a plain scalar may begin with the first character of a text. -/
def beginsPlain (flow : Bool) : List Char → Bool
  | [] => false
  | c :: rest =>
    if c == '-' then !rest.head?.any isSpace
    else if c == '?' || c == ':' then !flow && !atGap rest
    else !isSpace c && !isBreak c && !",[]\x7b\x7d#&*!|>'\"%@".toList.contains c && c.toNat != 0x60

/-- Read the next token at a place that is not the end of the text. -/
def step (layout : Layout) : Except String Layout :=
  let place := layout.place
  let text := place.rest
  let next := atGap (text.drop 1)
  let c := text.head?.getD ' '
  if place.column = 0 ∧ c = '%' then do
    let (token, after) ← directive place
    layout.atMargin token after
  else if place.atMarker then
    layout.atMargin (if c = '-' then .documentStart else .documentEnd) (place.skip 3)
  else if c = '[' then layout.openFlow .flowSequence
  else if c = '\x7b' then layout.openFlow .flowMapping
  else if c = ']' then layout.closeFlow .flowSequenceEnd
  else if c = '\x7d' then layout.closeFlow .flowMappingEnd
  else if c = ',' then do
    let layout ← layout.giveUp
    return { layout.take 1 .comma with keyAllowed := true }
  else if c = '-' ∧ next then layout.blockItem
  else if c = '?' ∧ (layout.inFlow ∨ next) then layout.markedKey
  else if c = ':' ∧ (layout.inFlow ∨ next) then layout.markedValue
  else if c = '*' then layout.leaf fun place => (anchorName place).map fun (name, place) => (.alias name, place)
  else if c = '&' then layout.leaf fun place => (anchorName place).map fun (name, place) => (.anchor name, place)
  else if c = '!' then layout.leaf (tagToken layout.inFlow)
  else if (c = '|' ∨ c = '>') ∧ !layout.inFlow then layout.block (c = '|')
  else if c = '\'' ∨ c = '"' then
    layout.leaf fun place => (quotedScalar c place).map fun (text, place) => (.scalar .quoted text, place)
  else if beginsPlain layout.inFlow text then layout.plain
  else .error "found character that cannot start any token"

/-- The tokens of a text, after those read so far. -/
def rest : Nat → Layout → Except String (List Token)
  | 0, layout => .ok layout.tokens.reverse
  | fuel + 1, layout => do
    let layout ← (layout.skipGap (layout.place.rest.length + 1)).giveUpStale
    let layout := layout.unroll layout.place.column
    if layout.place.rest.isEmpty then
      let layout ← layout.unrollAll.giveUp
      return layout.tokens.reverse
    else rest fuel (← layout.step)

end Layout

/-- The tokens of a text. -/
def tokens (text : String) : Except String (List Token) :=
  let characters :=
    match text.toList with
    | mark :: rest => if mark.toNat = 0xFEFF then rest else mark :: rest
    | [] => []
  if characters.all isAllowed then Layout.rest (characters.length + 1) { place := { rest := characters } }
  else .error "control characters are not allowed"

end Reconcile.Yaml
