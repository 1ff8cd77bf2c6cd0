import Reconcile.Yaml.Place
import Reconcile.Yaml.Token

/-!
# Scalars of YAML texts

The characters of plain, quoted and block scalars.  Where a plain or quoted scalar goes on over
lines, one line end counts as a blank and further ones count as themselves.
-/

namespace Reconcile.Yaml

/-! ### Gaps -/

/-- The white space between two pieces of a scalar; its characters stand last first. -/
inductive Gap where
  /-- White space on one line. -/
  | spaces (chars : List Char)
  /-- White space with the ends of lines in it, the first of them apart. -/
  | lines (first more : List Char)

namespace Gap

/-- What a gap counts for in a scalar, last character first. -/
def folded : Gap → List Char
  | .spaces chars => chars
  | .lines first more =>
    if first = ['\n'] then if more.isEmpty then [' '] else more
    else more ++ first

/-- Whether a line ends in the gap. -/
def breaks : Gap → Bool
  | .spaces _ => false
  | .lines _ _ => true

/-- The rest of a gap; a tab may not stand before the given column of a line that begins in it. -/
def rest (column : Nat) : Nat → Gap → Place → Except String (Gap × Place)
  | 0, gap, place => .ok (gap, place)
  | fuel + 1, gap, place =>
    match place.takeBreak?, gap with
    | some (c, place), .spaces _ => rest column fuel (.lines [c] []) place
    | some (c, place), .lines first more => rest column fuel (.lines first (c :: more)) place
    | none, gap =>
      match place.rest.head? with
      | some c =>
        if isSpace c then
          match gap with
          | .spaces chars => rest column fuel (.spaces (c :: chars)) (place.skip 1)
          | .lines _ _ =>
            if c = '\t' ∧ place.column < column then
              .error "found a tab character that violates indentation"
            else rest column fuel gap (place.skip 1)
        else .ok (gap, place)
      | none => .ok (gap, place)

end Gap

/-! ### Plain scalars -/

/-- Whether a character is an indicator of flow collections. -/
def isFlowIndicator (c : Char) : Bool := c == ',' || c == '[' || c == ']' || c == '\x7b' || c == '\x7d'

/-- The characters of a plain scalar before white space or its end. -/
def plainRun (flow : Bool) : List Char → Except String (List Char)
  | [] => .ok []
  | c :: rest =>
    let stuck := rest.head?.any fun d => isFlowIndicator d || d == '?'
    if isSpace c || isBreak c then .ok []
    else if flow && c == ':' && stuck then .error "found unexpected ':'"
    else if (c == ':' && atGap rest) || (flow && isFlowIndicator c) then .ok []
    else (plainRun flow rest).map (c :: ·)

/-- The rest of a plain scalar after the characters and the gap read so far. -/
def plainRest (flow : Bool) (column : Nat) :
    Nat → List Char → Gap → Place → Except String (List Char × Gap × Place)
  | 0, text, gap, place => .ok (text, gap, place)
  | fuel + 1, text, gap, place =>
    if place.atMarker || place.rest.head? == some '#' then .ok (text, gap, place)
    else do
      let run ← plainRun flow place.rest
      let place := place.skip run.length
      let (text, gap) := if run.isEmpty then (text, gap) else (run.reverse ++ (gap.folded ++ text), .spaces [])
      if place.rest.isEmpty || !atGap place.rest then return (text, gap, place)
      else
        let (gap, place) ← gap.rest column fuel place
        if !flow && place.column < column then return (text, gap, place)
        else plainRest flow column fuel text gap place

/-- A plain scalar of lines that begin at a column or after it, whether a line ends behind it, and
the place after it. -/
def plainScalar (flow : Bool) (column : Nat) (place : Place) : Except String (String × Bool × Place) := do
  let (text, gap, place) ← plainRest flow column (place.rest.length + 1) [] (.spaces []) place
  return (String.ofList text.reverse, gap.breaks, place)

/-! ### Quoted scalars -/

/-- The character at a number of hexadecimal digits. -/
def numbered (count : Nat) (text : List Char) : Except String Char :=
  let digits := text.take count
  match if digits.length = count then natOfBase? 16 digits else none with
  | some n =>
    if (0xD800 ≤ n ∧ n ≤ 0xDFFF) ∨ 0x10FFFF < n then .error "found invalid Unicode character escape code"
    else .ok (Char.ofNat n)
  | none => .error "did not find expected hexdecimal number"

/-- The character of an escape after its backslash, and the length of the escape. -/
def escaped : List Char → Except String (Char × Nat)
  | '0' :: _ => .ok (Char.ofNat 0, 1)
  | 'a' :: _ => .ok (Char.ofNat 0x7, 1)
  | 'b' :: _ => .ok (Char.ofNat 0x8, 1)
  | 't' :: _ | '\t' :: _ => .ok ('\t', 1)
  | 'n' :: _ => .ok ('\n', 1)
  | 'v' :: _ => .ok (Char.ofNat 0xB, 1)
  | 'f' :: _ => .ok (Char.ofNat 0xC, 1)
  | 'r' :: _ => .ok ('\r', 1)
  | 'e' :: _ => .ok (Char.ofNat 0x1B, 1)
  | ' ' :: _ => .ok (' ', 1)
  | '"' :: _ => .ok ('"', 1)
  | '/' :: _ => .ok ('/', 1)
  | '\\' :: _ => .ok ('\\', 1)
  | 'N' :: _ => .ok (Char.ofNat 0x85, 1)
  | '_' :: _ => .ok (Char.ofNat 0xA0, 1)
  | 'L' :: _ => .ok (Char.ofNat 0x2028, 1)
  | 'P' :: _ => .ok (Char.ofNat 0x2029, 1)
  | 'x' :: rest => (numbered 2 rest).map (·, 3)
  | 'u' :: rest => (numbered 4 rest).map (·, 5)
  | 'U' :: rest => (numbered 8 rest).map (·, 9)
  | _ => .error "found unknown escape character"

/-- The characters of a quoted scalar before white space or its end, last first, after those read
so far, and whether an escaped line end follows them. -/
def quotedRun (quote : Char) : Nat → List Char → Place → Except String (List Char × Bool × Place)
  | 0, text, place => .ok (text, false, place)
  | fuel + 1, text, place =>
    match place.rest with
    | [] => .ok (text, false, place)
    | c :: rest =>
      if isSpace c || isBreak c then .ok (text, false, place)
      else if c = quote then
        if quote = '\'' ∧ rest.head? = some quote then quotedRun quote fuel (quote :: text) (place.skip 2)
        else .ok (text, false, place)
      else if quote = '"' ∧ c = '\\' then
        if rest.head?.any isBreak then .ok (text, true, (place.skip 1).skipBreak)
        else do
          let (d, length) ← escaped rest
          quotedRun quote fuel (d :: text) (place.skip (length + 1))
      else quotedRun quote fuel (c :: text) (place.skip 1)

/-- The rest of a quoted scalar after the characters read so far. -/
def quotedRest (quote : Char) : Nat → List Char → Place → Except String (List Char × Place)
  | 0, _, _ => .error "found unexpected end of stream"
  | fuel + 1, text, place =>
    if place.atMarker then .error "found unexpected document indicator"
    else if place.rest.isEmpty then .error "found unexpected end of stream"
    else do
      let (text, joined, place) ← quotedRun quote fuel text place
      if place.rest.head? = some quote then return (text, place.skip 1)
      else
        let (gap, place) ← (if joined then Gap.lines [] [] else .spaces []).rest 0 (fuel + 1) place
        quotedRest quote fuel (gap.folded ++ text) place

/-- A quoted scalar and the place after it. -/
def quotedScalar (quote : Char) (place : Place) : Except String (String × Place) := do
  let (text, place) ← quotedRest quote (place.rest.length + 1) [] (place.skip 1)
  return (String.ofList text.reverse, place)

/-! ### Block scalars -/

/-- What becomes of the ends of lines at the end of a block scalar. -/
inductive Chomp where
  | strip
  | clip
  | keep
  deriving DecidableEq, Repr

/-- What the head of a block scalar says of its end and of its indentation, and the place after it. -/
def blockHead (place : Place) : Except String (Chomp × Option Nat × Place) := do
  let chomp? : Place → Option (Chomp × Place) := fun place =>
    match place.rest with
    | '+' :: _ => some (.keep, place.skip 1)
    | '-' :: _ => some (.strip, place.skip 1)
    | _ => none
  let width? : Place → Except String (Option Nat × Place) := fun place =>
    match place.rest with
    | c :: _ =>
      if c = '0' then .error "found an indentation indicator equal to 0"
      else if isDigit c then .ok (digitValue? c, place.skip 1)
      else .ok (none, place)
    | [] => .ok (none, place)
  match chomp? place with
  | some (chomp, place) => do
    let (width, place) ← width? place
    return (chomp, width, place)
  | none => do
    let (width, place) ← width? place
    match if width.isSome then chomp? place else none with
    | some (chomp, place) => return (chomp, width, place)
    | none => return (.clip, width, place)

/-- The empty lines before a line of a block scalar, last first after those read so far, and the
greatest column that they reach.  Where the indentation is not known, every blank belongs to it. -/
def emptyLines (indent : Option Nat) : Nat → List Char → Nat → Place → Except String (List Char × Nat × Place)
  | 0, breaks, reached, place => .ok (breaks, reached, place)
  | fuel + 1, breaks, reached, place =>
    let within (column : Nat) : Bool := indent.all (column < ·)
    let blanks := (place.rest.takeWhile (· == ' ')).length
    let place := place.skip (match indent with
      | some indent => min blanks (indent - place.column)
      | none => blanks)
    let reached := max reached place.column
    if within place.column && place.rest.head? == some '\t' then
      .error "found a tab character where an indentation space is expected"
    else
      match place.takeBreak? with
      | some (c, place) => emptyLines indent fuel (c :: breaks) reached place
      | none => .ok (breaks, reached, place)

/-- The lines of a block scalar at an indentation, last character first after those read so far; also
the end of the last line and the empty lines behind it. -/
def blockLines (isLiteral : Bool) (indent : Nat) :
    Nat → List Char → List Char → List Char → Bool → Place →
      Except String (List Char × List Char × List Char × Place)
  | 0, text, ended, empty, _, place => .ok (text, ended, empty, place)
  | fuel + 1, text, ended, empty, blank, place =>
    if place.column != indent || place.rest.isEmpty then .ok (text, ended, empty, place)
    else do
      let blankNow := place.rest.head?.any isSpace
      let joint :=
        if !isLiteral && ended == ['\n'] && !blank && !blankNow then if empty.isEmpty then [' '] else []
        else ended
      let (line, place) := place.takeWhile (!isBreak ·)
      let text := line.reverse ++ (empty ++ (joint ++ text))
      let (ended, place) :=
        match place.takeBreak? with
        | some (c, place) => ([c], place)
        | none => ([], place)
      let (empty, _, place) ← emptyLines (some indent) (fuel + 1) [] 0 place
      blockLines isLiteral indent fuel text ended empty blankNow place

/-- A block scalar below a collection whose content begins at a column, and the place after it. -/
def blockScalar (isLiteral : Bool) (column : Nat) (place : Place) : Except String (String × Place) := do
  let (chomp, width, place) ← blockHead (place.skip 1)
  let place := (place.skipWhile isSpace).skipComment
  if !atBreak place.rest then .error "did not find expected comment or line break"
  else
    let place := place.skipBreak
    let fuel := place.rest.length + 1
    let known := width.map fun width => column - 1 + width
    let (empty, reached, place) ← emptyLines known fuel [] 0 place
    let indent := known.getD (max reached (max column 1))
    let (text, ended, empty, place) ← blockLines isLiteral indent fuel [] [] empty false place
    let tail :=
      match chomp with
      | .strip => []
      | .clip => ended
      | .keep => empty ++ ended
    return (String.ofList (tail ++ text).reverse, place)

end Reconcile.Yaml
