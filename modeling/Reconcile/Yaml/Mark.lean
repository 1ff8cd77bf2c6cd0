import Reconcile.Yaml.Place
import Reconcile.Yaml.Token

/-!
# Anchors, tags and directives

What begins with one of the indicators `&`, `*`, `!` and `%`: the names given to nodes, the tags
on them, and the lines before a document.
-/

namespace Reconcile.Yaml

/-- The name of an anchor or an alias, and the place after it. -/
def anchorName (place : Place) : Except String (String × Place) :=
  let (name, place) := (place.skip 1).takeWhile isWord
  let ended :=
    atGap place.rest || place.rest.head?.any fun c =>
      c == '?' || c == ':' || c == ',' || c == ']' || c == '\x7d' || c == '%' || c == '@' || c.toNat == 0x60
  if name.isEmpty || !ended then .error "did not find expected alphabetic or numeric character"
  else .ok (String.ofList name, place)

/-! ### Tags -/

/-- Whether a character may stand in the name of a tag. -/
def isTagCharacter (verbatim : Bool) (c : Char) : Bool :=
  isWord c || ";/?:@&=+$.%!~*'()".toList.contains c || (verbatim && ",[]".toList.contains c)

/-- An octet written by a percent sign and two digits. -/
def octet : List Char → Except String (Nat × List Char)
  | '%' :: a :: b :: rest =>
    match natOfBase? 16 [a, b] with
    | some n => .ok (n, rest)
    | none => .error "did not find URI escaped octet"
  | _ => .error "did not find URI escaped octet"

/-- Further octets of a character, after the bits of the earlier ones. -/
def trailingOctets : Nat → Nat → List Char → Except String (Nat × List Char)
  | 0, bits, text => .ok (bits, text)
  | count + 1, bits, text => do
    let (n, rest) ← octet text
    if n / 0x40 = 2 then trailingOctets count (bits * 0x40 + n % 0x40) rest
    else .error "found an incorrect trailing UTF-8 octet"

/-- A character written by escaped octets. -/
def escapedOctets (text : List Char) : Except String (Char × List Char) := do
  let (n, rest) ← octet text
  if n < 0x80 then return (Char.ofNat n, rest)
  else if 0xC0 ≤ n ∧ n < 0xF8 then
    let count := if n < 0xE0 then 1 else if n < 0xF0 then 2 else 3
    let (code, rest) ← trailingOctets count (n % Nat.pow 2 (6 - count)) rest
    return (Char.ofNat code, rest)
  else .error "found an incorrect leading UTF-8 octet"

/-- The name of a tag with its escapes resolved. -/
def unescaped : Nat → List Char → Except String (List Char)
  | 0, _ => .ok []
  | _ + 1, [] => .ok []
  | fuel + 1, c :: rest =>
    if c = '%' then do
      let (d, rest) ← escapedOctets (c :: rest)
      return d :: (← unescaped fuel rest)
    else (unescaped fuel rest).map (c :: ·)

/-- The characters of a tag that follow, and the place after them. -/
def tagName (verbatim : Bool) (place : Place) : Except String (List Char × Place) := do
  let (name, place) := place.takeWhile (isTagCharacter verbatim)
  return (← unescaped (name.length + 1) name, place)

/-- The characters of a tag that follow, of which there has to be one. -/
def someTagName (verbatim : Bool) (place : Place) : Except String (List Char × Place) := do
  let (name, after) ← tagName verbatim place
  if name.isEmpty then .error "did not find expected tag URI" else return (name, after)

/-- A handle of tags, with or without an indicator at its end, and the place after it. -/
def tagHandle (place : Place) : List Char × Place :=
  let (word, place) := (place.skip 1).takeWhile isWord
  if place.rest.head? = some '!' then ('!' :: word ++ ['!'], place.skip 1) else ('!' :: word, place)

/-- A tag, and the place after it. -/
def tagToken (flow : Bool) (place : Place) : Except String (Token × Place) := do
  let (token, place) ← match place.rest with
    | '!' :: '<' :: _ => do
      let (name, place) ← someTagName true (place.skip 2)
      if place.rest.head? = some '>' then pure (Token.tag "" (String.ofList name), place.skip 1)
      else .error "did not find the expected '>'"
    | _ => do
      let (handle, after) := tagHandle place
      if 1 < handle.length ∧ handle.getLast? = some '!' then
        let (name, after) ← someTagName false after
        pure (Token.tag (String.ofList handle) (String.ofList name), after)
      else
        let (name, after) ← tagName false after
        let name := handle.drop 1 ++ name
        pure (if name.isEmpty then Token.tag "" "!" else Token.tag "!" (String.ofList name), after)
  if atGap place.rest || (flow && place.rest.head? == some ',') then return (token, place)
  else .error "did not find expected whitespace or line break"

/-! ### Directives -/

/-- A number of a version, and the place after it. -/
def versionNumber (place : Place) : Except String (Nat × Place) :=
  let (digits, place) := place.takeWhile isDigit
  if digits.isEmpty then .error "did not find expected version number"
  else if 9 < digits.length then .error "found extremely long version number"
  else .ok (digitsValue digits, place)

/-- What a directive says, and the place after it on its line. -/
def directiveBody (name : String) (place : Place) : Except String (Token × Place) := do
  let place := place.skipWhile isSpace
  if name = "YAML" then
    let (major, place) ← versionNumber place
    if place.rest.head? = some '.' then
      let (minor, place) ← versionNumber (place.skip 1)
      return (.version major minor, place)
    else .error "did not find expected digit or '.' character"
  else if name = "TAG" then
    if place.rest.head? ≠ some '!' then .error "did not find expected '!'"
    else
      let (handle, place) := tagHandle place
      if 1 < handle.length ∧ handle.getLast? ≠ some '!' then .error "did not find expected '!'"
      else if !place.rest.head?.any isSpace then .error "did not find expected whitespace"
      else
        let (leading, place) ← someTagName true (place.skipWhile isSpace)
        if atGap place.rest then return (.handle (String.ofList handle) (String.ofList leading), place)
        else .error "did not find expected whitespace or line break"
  else .error "found unknown directive name"

/-- A directive, and the place after its line. -/
def directive (place : Place) : Except String (Token × Place) := do
  let (name, place) := (place.skip 1).takeWhile isWord
  if name.isEmpty then .error "could not find expected directive name"
  else if !atGap place.rest then .error "found unexpected non-alphabetical character"
  else
    let (token, place) ← directiveBody (String.ofList name) place
    let place := (place.skipWhile isSpace).skipComment
    if atBreak place.rest then return (token, place.skipBreak)
    else .error "did not find expected comment or line break"

end Reconcile.Yaml
