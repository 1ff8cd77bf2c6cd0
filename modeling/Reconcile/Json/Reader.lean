import Reconcile.Document.Basic
import Reconcile.Number.Scaling

/-!
# Reading JSON texts

A strict reader: no comments, no trailing commas, no unescaped control characters, no lone
halves of surrogate pairs, and fewer than 128 containers inside each other.  Repeated fields
are kept; what they mean is for the place at which the object stands.
-/

namespace Reconcile.Json.Reader

/-- The number of containers that may stand inside each other. -/
def depthLimit : Nat := 127

/-- Drop the white space before a token. -/
def skipBlanks : List Char → List Char :=
  List.dropWhile fun c => c = ' ' || c = '\t' || c = '\n' || c = '\r'

/-- The character at four hexadecimal digits, as a number. -/
def fourDigits : List Char → Except String (Nat × List Char)
  | a :: b :: c :: d :: rest =>
    match natOfBase? 16 [a, b, c, d] with
    | some n => .ok (n, rest)
    | none => .error "invalid escape"
  | _ => .error "unexpected end of text"

/-- The character of an escape whose `\u` has been read; two escapes make one character when they
are the halves of a surrogate pair. -/
def escapedUnit (text : List Char) : Except String (Char × List Char) := do
  let (n, rest) ← fourDigits text
  if 0xDC00 ≤ n ∧ n ≤ 0xDFFF then .error "lone trailing surrogate in hex escape"
  else if 0xD800 ≤ n ∧ n ≤ 0xDBFF then
    match rest with
    | '\\' :: 'u' :: rest =>
      let (m, rest) ← fourDigits rest
      if 0xDC00 ≤ m ∧ m ≤ 0xDFFF then
        return (Char.ofNat (0x10000 + (n - 0xD800) * 0x400 + (m - 0xDC00)), rest)
      else .error "lone leading surrogate in hex escape"
    | _ => .error "lone leading surrogate in hex escape"
  else return (Char.ofNat n, rest)

/-- The rest of a text in quotes, after the characters read so far, last first. -/
def stringRest : Nat → List Char → List Char → Except String (String × List Char)
  | 0, _, _ => .error "unexpected end of text"
  | _ + 1, _, [] => .error "unexpected end of text"
  | fuel + 1, read, c :: rest =>
    if c = '"' then .ok (String.ofList read.reverse, rest)
    else if c = '\\' then
      match rest with
      | '"' :: rest => stringRest fuel ('"' :: read) rest
      | '\\' :: rest => stringRest fuel ('\\' :: read) rest
      | '/' :: rest => stringRest fuel ('/' :: read) rest
      | 'b' :: rest => stringRest fuel (Char.ofNat 0x8 :: read) rest
      | 'f' :: rest => stringRest fuel (Char.ofNat 0xC :: read) rest
      | 'n' :: rest => stringRest fuel ('\n' :: read) rest
      | 'r' :: rest => stringRest fuel ('\r' :: read) rest
      | 't' :: rest => stringRest fuel ('\t' :: read) rest
      | 'u' :: rest =>
        match escapedUnit rest with
        | .ok (c, rest) => stringRest fuel (c :: read) rest
        | .error reason => .error reason
      | _ => .error "invalid escape"
    else if c.toNat < 0x20 then .error "control character in a string"
    else stringRest fuel (c :: read) rest

/-- The number of a document written as an integer, if its digits are all it has and it fits. -/
def integer? (negative : Bool) (n : Nat) : Option Int :=
  if negative then if 0 < n ∧ n ≤ Nat.pow 2 63 then some (-(n : Int)) else none
  else if n ≤ significandLimit then some n else none

/-- A number; one that is too large reads as no value. -/
def number (negative : Bool) (text : List Char) : Except String (Document × List Char) := do
  let digit (c : Char) : Nat := c.toNat - '0'.toNat
  let (whole, rest) := text.span isDigit
  if whole.isEmpty ∨ (whole.head? = some '0' ∧ 1 < whole.length) then .error "invalid number"
  let (fraction, rest) ←
    match rest with
    | '.' :: rest =>
      let (fraction, rest) := rest.span isDigit
      if fraction.isEmpty then .error "invalid number" else pure (some fraction, rest)
    | rest => pure (none, rest)
  let (exponent, rest) ←
    match rest with
    | mark :: rest' =>
      if mark = 'e' ∨ mark = 'E' then
        let (minus, rest') := splitSign rest'
        let (digits, rest') := rest'.span isDigit
        if digits.isEmpty then .error "invalid number"
        else
          let n : Int := digitsValue digits
          pure (some (if minus then -n else n), rest')
      else pure (none, rest)
    | [] => pure (none, rest)
  let exact := if fraction.isNone && exponent.isNone then integer? negative (digitsValue whole) else none
  let number : Option Number :=
    match exact with
    | some n => some (.int n)
    | none =>
      (Double.ofParts? negative (whole.map digit) ((fraction.getD []).map digit) (exponent.getD 0)).map .real
  match number with
  | some n => return (.scalar (.ofNumber n), rest)
  | none => return (.scalar .unreadable, rest)

mutual

/-- A value, with a bound on the containers that may still be opened inside each other. -/
def value : Nat → Nat → List Char → Except String (Document × List Char)
  | 0, _, _ => .error "unexpected end of text"
  | fuel + 1, depth, text =>
    match skipBlanks text with
    | 'n' :: 'u' :: 'l' :: 'l' :: rest => .ok (.scalar .null, rest)
    | 't' :: 'r' :: 'u' :: 'e' :: rest => .ok (.scalar (.ofBool true), rest)
    | 'f' :: 'a' :: 'l' :: 's' :: 'e' :: rest => .ok (.scalar (.ofBool false), rest)
    | '"' :: rest => do
      let (text, rest) ← stringRest (rest.length + 1) [] rest
      return (.scalar (.ofText text), rest)
    | '-' :: rest => number true rest
    | '[' :: rest =>
      match depth with
      | 0 => .error "recursion limit exceeded"
      | depth + 1 => do
        match skipBlanks rest with
        | ']' :: rest => return (.list [], rest)
        | rest =>
          let (items, rest) ← items fuel depth rest
          return (.list items, rest)
    | '\x7b' :: rest =>
      match depth with
      | 0 => .error "recursion limit exceeded"
      | depth + 1 => do
        match skipBlanks rest with
        | '\x7d' :: rest => return (.fields [], rest)
        | rest =>
          let (entries, rest) ← fields fuel depth rest
          return (.fields entries, rest)
    | [] => .error "unexpected end of text"
    | text => number false text

/-- The items of a list up to its closing bracket, the next one expected. -/
def items : Nat → Nat → List Char → Except String (List Document × List Char)
  | 0, _, _ => .error "unexpected end of text"
  | fuel + 1, depth, text => do
    let (item, rest) ← value fuel depth text
    match skipBlanks rest with
    | ',' :: rest =>
      let (rest, after) ← items fuel depth rest
      return (item :: rest, after)
    | ']' :: rest => return ([item], rest)
    | _ => .error "expected a comma or a closing bracket"

/-- The fields of an object up to its closing brace, the next one expected. -/
def fields : Nat → Nat → List Char → Except String (List (String × Document) × List Char)
  | 0, _, _ => .error "unexpected end of text"
  | fuel + 1, depth, text => do
    match skipBlanks text with
    | '"' :: rest =>
      let (key, rest) ← stringRest (rest.length + 1) [] rest
      match skipBlanks rest with
      | ':' :: rest =>
        let (item, rest) ← value fuel depth rest
        match skipBlanks rest with
        | ',' :: rest =>
          let (rest, after) ← fields fuel depth rest
          return ((key, item) :: rest, after)
        | '\x7d' :: rest => return ([(key, item)], rest)
        | _ => .error "expected a comma or a closing brace"
      | _ => .error "expected a colon"
    | _ => .error "expected a field name"

end

end Reader

/-- The document of a JSON text. -/
def read (text : String) : Except String Document := do
  let (document, rest) ← Reader.value (text.toList.length + 1) Reader.depthLimit text.toList
  if (Reader.skipBlanks rest).isEmpty then return document
  else .error "trailing characters"

/-- The value of a JSON text. -/
def parse (text : String) : Except String Json := do
  let document ← read text
  document.toJson

end Reconcile.Json
