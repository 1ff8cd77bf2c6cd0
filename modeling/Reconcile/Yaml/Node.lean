import Reconcile.Table
import Reconcile.Yaml.Layout
import Reconcile.Yaml.Schema

/-!
# Nodes of YAML texts

The tokens of a text become the node that its only document holds.  A node may have an anchor, by
which aliases later in the text stand for it, and a tag.

Anchors are numbered by how many names were anchored before.  A name that is anchored again gets
such a number too, which the next new name then shares, and an alias stands for the last node of
its number.
-/

namespace Reconcile.Yaml

/-- A node. -/
inductive Node where
  /-- The node of an anchor, by the anchor's number. -/
  | alias (anchor : Nat)
  | scalar (tag : Option String) (style : Style) (text : String)
  | sequence (tag : Option String) (items : List Node)
  | mapping (tag : Option String) (entries : List (Node × Node))

namespace Node

/-- A node that is not written. -/
def empty : Node := .scalar none .plain ""

end Node

/-- Tokens, some of which have been made nodes. -/
structure Composer where
  tokens : List Token
  /-- The handles of tags, with what they stand for. -/
  handles : List (String × String) := [("!", "!"), ("!!", coreTag)]
  /-- The anchored names with their numbers, last first. -/
  names : List (String × Nat) := []
  /-- The number of anchors so far. -/
  anchors : Nat := 0
  /-- Which anchor has a number, last first. -/
  numbers : List (Nat × Nat) := []
  /-- The anchored nodes, by their place among the anchors. -/
  nodes : List (Nat × Node) := []

/-- A step that makes tokens nodes. -/
abbrev Compose := StateT Composer (Except String)

namespace Compose

/-- The next token. -/
def peek : Compose (Option Token) := do return (← get).tokens.head?

/-- Pass over the next token. -/
def skip : Compose Unit := modify fun c => { c with tokens := c.tokens.drop 1 }

/-- Give up with a reason. -/
def fail {α : Type} (reason : String) : Compose α := throw reason

/-- The tag that a handle and a name write. -/
def resolveTag (handle name : String) : Compose String := do
  if handle.isEmpty then return name
  else
    match lookup handle (← get).handles with
    | some leading => return leading ++ name
    | none => fail "found undefined tag handle"

/-- Note that a name is anchored; the place of the anchor among all. -/
def register (name : String) : Compose Nat := do
  let c ← get
  let number := (c.names.map Prod.fst).eraseDups.length
  set { c with
    names := (name, number) :: c.names
    numbers := (number, c.anchors) :: c.numbers
    anchors := c.anchors + 1 }
  return c.anchors

/-- The alias for a name. -/
def aliasNode (name : String) : Compose Node := do
  match lookup name (← get).names with
  | some number => return .alias number
  | none => fail "unknown anchor"

/-- The anchor and the tag before a node. -/
def properties : Compose (Option Nat × Option String) := do
  let anchor : Compose (Option Nat) := do
    match ← peek with
    | some (.anchor name) => do
      skip
      return some (← register name)
    | _ => return none
  let tag : Compose (Option String) := do
    match ← peek with
    | some (.tag handle name) => do
      skip
      return some (← resolveTag handle name)
    | _ => return none
  let first ← anchor
  let tag ← tag
  match first with
  | some _ => return (first, tag)
  | none => return (← if tag.isSome then anchor else pure none, tag)

/-- Whether a token ends what stands directly in a block mapping. -/
def endsEntry : Option Token → Bool
  | some .key | some .value | some .blockEnd => true
  | _ => false

mutual

/-- A node; `block` says whether it may be a block collection, and `compact` whether it may be a
sequence at the indentation of the mapping around it. -/
def node : Nat → (block compact : Bool) → Compose Node
  | 0, _, _ => fail "too many tokens"
  | fuel + 1, block, compact => do
    match ← peek with
    | some (.alias name) => do
      skip
      aliasNode name
    | _ => do
      let (anchor, tag) ← properties
      let node ← content fuel block compact (anchor.isSome || tag.isSome) tag
      match anchor with
      | some anchor => modify fun c => { c with nodes := (anchor, node) :: c.nodes }
      | none => pure ()
      return node

/-- What a node holds; it may be missing only where an anchor or a tag shows that it is there. -/
def content : Nat → (block compact optional : Bool) → Option String → Compose Node
  | 0, _, _, _, _ => fail "too many tokens"
  | fuel + 1, block, compact, optional, tag => do
    let token ← peek
    if compact && token == some .item then return .sequence tag (← compactItems fuel)
    else
      match token with
      | some (.scalar style text) => do
        skip
        return .scalar tag style text
      | some .flowSequence => do
        skip
        return .sequence tag (← flowItems fuel true)
      | some .flowMapping => do
        skip
        return .mapping tag (← flowEntries fuel true)
      | _ =>
        if block && token == some .blockSequence then do
          skip
          return .sequence tag (← blockItems fuel)
        else if block && token == some .blockMapping then do
          skip
          return .mapping tag (← blockEntries fuel)
        else if optional then return .scalar tag .plain ""
        else fail "did not find expected node content"

/-- The items of a block sequence. -/
def blockItems : Nat → Compose (List Node)
  | 0 => fail "too many tokens"
  | fuel + 1 => do
    match ← peek with
    | some .item => do
      skip
      let next ← peek
      let item ←
        if next == some .item || next == some .blockEnd then pure Node.empty
        else node fuel true false
      return item :: (← blockItems fuel)
    | some .blockEnd => do
      skip
      return []
    | _ => fail "did not find expected '-' indicator"

/-- The items of a sequence at the indentation of the mapping around it. -/
def compactItems : Nat → Compose (List Node)
  | 0 => fail "too many tokens"
  | fuel + 1 => do
    match ← peek with
    | some .item => do
      skip
      let next ← peek
      let item ←
        if next == some .item || endsEntry next then pure Node.empty
        else node fuel true false
      return item :: (← compactItems fuel)
    | _ => return []

/-- The entries of a block mapping. -/
def blockEntries : Nat → Compose (List (Node × Node))
  | 0 => fail "too many tokens"
  | fuel + 1 => do
    match ← peek with
    | some .key => do
      skip
      let key ← if endsEntry (← peek) then pure Node.empty else node fuel true true
      let value ← blockValue fuel
      return (key, value) :: (← blockEntries fuel)
    | some .blockEnd => do
      skip
      return []
    | _ => fail "did not find expected key"

/-- The value of an entry of a block mapping. -/
def blockValue : Nat → Compose Node
  | 0 => fail "too many tokens"
  | fuel + 1 => do
    match ← peek with
    | some .value => do
      skip
      if endsEntry (← peek) then return .empty else node fuel true true
    | _ => return .empty

/-- The items of a flow sequence; a comma stands before each but the first. -/
def flowItems : Nat → (first : Bool) → Compose (List Node)
  | 0, _ => fail "too many tokens"
  | fuel + 1, first => do
    match ← peek with
    | some .flowSequenceEnd => do
      skip
      return []
    | token =>
      if !first && token != some .comma then fail "did not find expected ',' or ']'"
      else do
        if !first then skip
        match ← peek with
        | some .flowSequenceEnd => do
          skip
          return []
        | some .key => do
          skip
          let item ← flowPair fuel
          return item :: (← flowItems fuel false)
        | _ => do
          let item ← node fuel false false
          return item :: (← flowItems fuel false)

/-- A pair in a flow sequence, which is a mapping of one entry. -/
def flowPair : Nat → Compose Node
  | 0 => fail "too many tokens"
  | fuel + 1 => do
    let ends : Option Token → Bool
      | some .comma | some .flowSequenceEnd => true
      | _ => false
    let next ← peek
    let key ←
      if next == some .value || ends next then do
        skip
        pure Node.empty
      else node fuel false false
    match ← peek with
    | some .value => do
      skip
      let value ← if ends (← peek) then pure Node.empty else node fuel false false
      return .mapping none [(key, value)]
    | _ => return .mapping none [(key, .empty)]

/-- The entries of a flow mapping; a comma stands before each but the first. -/
def flowEntries : Nat → (first : Bool) → Compose (List (Node × Node))
  | 0, _ => fail "too many tokens"
  | fuel + 1, first => do
    let ends : Option Token → Bool
      | some .comma | some .flowMappingEnd => true
      | _ => false
    match ← peek with
    | some .flowMappingEnd => do
      skip
      return []
    | token =>
      if !first && token != some .comma then fail "did not find expected ',' or '\x7d'"
      else do
        if !first then skip
        match ← peek with
        | some .flowMappingEnd => do
          skip
          return []
        | some .key => do
          skip
          let next ← peek
          let key ← if next == some .value || ends next then pure Node.empty else node fuel false false
          let value ←
            match ← peek with
            | some .value => do
              skip
              if ends (← peek) then pure Node.empty else node fuel false false
            | _ => pure Node.empty
          return (key, value) :: (← flowEntries fuel false)
        | _ => do
          let key ← node fuel false false
          return (key, .empty) :: (← flowEntries fuel false)

end

/-! ### Documents -/

/-- Read the directives before a document. -/
def directives : Nat → (versioned : Bool) → Compose Unit
  | 0, _ => fail "too many tokens"
  | fuel + 1, versioned => do
    match ← peek with
    | some (.version major minor) =>
      if versioned then fail "found duplicate %YAML directive"
      else if major = 1 ∧ (minor = 1 ∨ minor = 2) then do
        skip
        directives fuel true
      else fail "found incompatible YAML document"
    | some (.handle name leading) => do
      let usual := ([("!", "!"), ("!!", coreTag)] : List (String × String))
      let own := (← get).handles.take ((← get).handles.length - usual.length)
      if (lookup name own).isSome then fail "found duplicate %TAG directive"
      else do
        skip
        modify fun c => { c with handles := (name, leading) :: c.handles }
        directives fuel versioned
    | _ => return ()

/-- The only document of a text; none when the text holds nothing. -/
def document : Compose (Option Node) := do
  let fuel := 4 * (← get).tokens.length + 8
  let wasEmpty := (← get).tokens.isEmpty
  if wasEmpty then return none
  else do
    let isExplicit : Option Token → Bool
      | some (.version _ _) | some (.handle _ _) | some .documentStart => true
      | _ => false
    let body ←
      if isExplicit (← peek) then do
        directives fuel false
        if (← peek) != some .documentStart then fail "did not find expected <document start>"
        else do
          skip
          let next ← peek
          if isExplicit next || next == some .documentEnd || next.isNone then pure Node.empty
          else node fuel true false
      else node fuel true false
    modify fun c => { c with tokens := c.tokens.dropWhile (· == .documentEnd) }
    if (← get).tokens.isEmpty then return some body else fail "more than one document"

end Compose

end Reconcile.Yaml
