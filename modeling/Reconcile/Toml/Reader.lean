import Reconcile.Toml.Tree

/-!
# Reading TOML texts

A reader of version 1.0 of the format: tables, lists of tables, dotted keys, the four kinds of
strings, integers in four bases, floating-point numbers, truth values, dates and times, lists and
tables on one line.
-/

namespace Reconcile.Toml

namespace Reader

/-- Whether a character may not stand in a comment or a string on one line. -/
def isControl (c : Char) : Bool := (c.toNat < 0x20 && c != '\t') || c.toNat == 0x7F

/-- Drop blanks and tabs. -/
def skipBlanks : List Char → List Char := List.dropWhile fun c => c == ' ' || c == '\t'

/-- The rest after a line end, if there is one here. -/
def lineEnd? : List Char → Option (List Char)
  | '\n' :: rest => some rest
  | '\r' :: '\n' :: rest => some rest
  | _ => none

/-- Drop a comment, up to the end of its line. -/
def skipComment : List Char → Except String (List Char)
  | '#' :: rest =>
    let (comment, after) := rest.span fun c => c != '\n'
    let comment := if after.isEmpty || comment.getLast? != some '\r' then comment else comment.dropLast
    if comment.any isControl then .error "control character in a comment" else .ok after
  | rest => .ok rest

/-- Drop what ends a line after a statement. -/
def endLine (text : List Char) : Except String (List Char) := do
  match ← skipComment (skipBlanks text) with
  | [] => return []
  | rest =>
    match lineEnd? rest with
    | some rest => return rest
    | none => .error "expected the end of a line"

/-- Drop white space, line ends and comments. -/
def skipLines : Nat → List Char → Except String (List Char)
  | 0, _ => .error "unexpected end of text"
  | fuel + 1, text => do
    match skipBlanks text with
    | '#' :: rest => skipLines fuel (← skipComment ('#' :: rest))
    | rest =>
      match lineEnd? rest with
      | some rest => skipLines fuel rest
      | none => return rest

/-! ### Strings -/

/-- The character that some hexadecimal digits number. -/
def numbered (count : Nat) (text : List Char) : Except String (Char × List Char) :=
  let digits := text.take count
  match natOfBase? 16 digits with
  | some n =>
    if digits.length < count ∨ (0xD800 ≤ n ∧ n ≤ 0xDFFF) ∨ 0x10FFFF < n then .error "invalid escape"
    else .ok (Char.ofNat n, text.drop count)
  | none => .error "invalid escape"

/-- The character of an escape whose backslash has been read. -/
def escaped : List Char → Except String (Char × List Char)
  | 'b' :: rest => .ok (Char.ofNat 0x8, rest)
  | 't' :: rest => .ok ('\t', rest)
  | 'n' :: rest => .ok ('\n', rest)
  | 'f' :: rest => .ok (Char.ofNat 0xC, rest)
  | 'r' :: rest => .ok ('\r', rest)
  | '"' :: rest => .ok ('"', rest)
  | '\\' :: rest => .ok ('\\', rest)
  | 'u' :: rest => numbered 4 rest
  | 'U' :: rest => numbered 8 rest
  | _ => .error "invalid escape"

/-- The rest of a string on one line, after the characters read so far, last first; escapes count
between double quotes only. -/
def lineString (quote : Char) : Nat → List Char → List Char → Except String (String × List Char)
  | 0, _, _ | _ + 1, _, [] => .error "unexpected end of text"
  | fuel + 1, read, c :: rest =>
    if c = quote then .ok (String.ofList read.reverse, rest)
    else if c = '\\' ∧ quote = '"' then
      match escaped rest with
      | .ok (c, rest) => lineString quote fuel (c :: read) rest
      | .error reason => .error reason
    else if isControl c then .error "control character in a string"
    else lineString quote fuel (c :: read) rest

/-- Drop white space and line ends. -/
def skipFolded (text : List Char) : List Char :=
  text.dropWhile fun c => c == ' ' || c == '\t' || c == '\n' || c == '\r'

/-- The rest of a string on several lines, after the characters read so far, last first.  It ends at
three quotes; up to two more before these belong to it. -/
def linesString (quote : Char) : Nat → List Char → List Char → Except String (String × List Char)
  | 0, _, _ | _ + 1, _, [] => .error "unexpected end of text"
  | fuel + 1, read, c :: rest =>
    if c = quote then
      let (quotes, after) := (c :: rest).span (· == quote)
      if 6 ≤ quotes.length then .error "too many quotes"
      else if 3 ≤ quotes.length then .ok (String.ofList (quotes.drop 3 ++ read).reverse, after)
      else linesString quote fuel (quotes ++ read) after
    else if c = '\\' ∧ quote = '"' then
      match lineEnd? (skipBlanks rest) with
      | some after => linesString quote fuel read (skipFolded after)
      | none =>
        match escaped rest with
        | .ok (c, rest) => linesString quote fuel (c :: read) rest
        | .error reason => .error reason
    else
      match lineEnd? (c :: rest) with
      | some after => linesString quote fuel ('\n' :: read) after
      | none =>
        if isControl c then .error "control character in a string"
        else linesString quote fuel (c :: read) rest

/-- A string, whose first quote is next. -/
def string (text : List Char) : Except String (String × List Char) :=
  let fuel := text.length + 1
  let opened (quote : Char) (rest : List Char) : Except String (String × List Char) :=
    linesString quote fuel [] ((lineEnd? rest).getD rest)
  match text with
  | '"' :: '"' :: '"' :: rest => opened '"' rest
  | '\'' :: '\'' :: '\'' :: rest => opened '\'' rest
  | quote :: rest => lineString quote fuel [] rest
  | [] => .error "unexpected end of text"

/-! ### Keys -/

/-- Whether a character may stand in a key without quotes. -/
def isBare (c : Char) : Bool := isDigit c || ('a' ≤ c && c ≤ 'z') || ('A' ≤ c && c ≤ 'Z') || c == '_' || c == '-'

/-- A part of a key. -/
def keyPart (text : List Char) : Except String (String × List Char) :=
  match text with
  | '"' :: rest => lineString '"' (text.length + 1) [] rest
  | '\'' :: rest => lineString '\'' (text.length + 1) [] rest
  | _ =>
    let (part, rest) := text.span isBare
    if part.isEmpty then .error "expected a key" else .ok (String.ofList part, rest)

/-- A key: parts with points between them. -/
def key : Nat → List Char → Except String (List String × List Char)
  | 0, _ => .error "unexpected end of text"
  | fuel + 1, text => do
    let (part, rest) ← keyPart (skipBlanks text)
    match skipBlanks rest with
    | '.' :: rest =>
      let (parts, rest) ← key fuel rest
      return (part :: parts, rest)
    | rest => return ([part], rest)

/-! ### Numbers, dates and times -/

/-- Digits without the underscores between them. -/
def grouped (isValid : Char → Bool) (text : List Char) : Option (List Char) :=
  let parts := Text.splitOn ['_'] text
  if parts.all fun part => !part.isEmpty && part.all isValid then some parts.flatten else none

/-- Decimal digits without a leading zero. -/
def wholeDigits (text : List Char) : Option (List Char) :=
  (grouped isDigit text).filter fun digits => digits.length == 1 || digits.head? != some '0'

/-- An integer. -/
def integer? (text : List Char) : Option Int :=
  let based (base : Nat) (rest : List Char) : Option Int :=
    ((grouped (fun c => (digitValue? c).any (· < base)) rest).bind (natOfBase? base)).map Int.ofNat
  match text with
  | '0' :: 'x' :: rest => based 16 rest
  | '0' :: 'o' :: rest => based 8 rest
  | '0' :: 'b' :: rest => based 2 rest
  | _ =>
    let (negative, rest) := splitSign text
    (wholeDigits rest).map fun digits =>
      if negative then -(digitsValue digits : Int) else digitsValue digits

/-- A floating-point number. -/
def float? (text : List Char) : Option Extended := do
  let (negative, rest) := splitSign text
  if rest = "inf".toList then return .infinite negative
  if rest = "nan".toList then return .nan
  let (mantissa, exponent) := rest.span fun c => c != 'e' && c != 'E'
  let (whole, fraction) := mantissa.span (· != '.')
  let whole ← wholeDigits whole
  let fraction ←
    match fraction with
    | [] => some []
    | _ :: digits => grouped isDigit digits
  let exponent ←
    match exponent with
    | [] => if mantissa.contains '.' then some 0 else none
    | _ :: rest => do
      let (minus, rest) := splitSign rest
      let digits ← grouped isDigit rest
      some (if minus then -(digitsValue digits : Int) else digitsValue digits)
  return .ofDecimal negative (digitsValue (whole ++ fraction)) (exponent - fraction.length)

/-- A number of exactly so many digits, within bounds. -/
def field? (count low high : Nat) (text : List Char) : Option Nat :=
  if text.length = count ∧ text.all isDigit ∧ low ≤ digitsValue text ∧ digitsValue text ≤ high then
    some (digitsValue text)
  else none

/-- The number of days of a month. -/
def daysOf (year month : Nat) : Nat :=
  let leap := year % 4 == 0 && (year % 100 != 0 || year % 400 == 0)
  if month = 2 then if leap then 29 else 28
  else if month = 4 ∨ month = 6 ∨ month = 9 ∨ month = 11 then 30
  else 31

/-- Whether a text is a date. -/
def isDate (text : List Char) : Bool :=
  match Text.splitOn ['-'] text with
  | [year, month, day] =>
    match field? 4 0 9999 year, field? 2 1 12 month with
    | some year, some month => (field? 2 1 (daysOf year month) day).isSome
    | _, _ => false
  | _ => false

/-- Whether a text is a time of day. -/
def isTime (text : List Char) : Bool :=
  match Text.splitOn [':'] text with
  | [hour, minute, second] =>
    let (second, fraction) := second.span (· != '.')
    (field? 2 0 23 hour).isSome && (field? 2 0 59 minute).isSome && (field? 2 0 60 second).isSome
      && (fraction.isEmpty || (1 < fraction.length && (fraction.drop 1).all isDigit))
  | _ => false

/-- Whether a text is an offset from universal time. -/
def isOffset (text : List Char) : Bool :=
  match text with
  | ['Z'] | ['z'] => true
  | sign :: rest =>
    (sign == '+' || sign == '-') &&
      match Text.splitOn [':'] rest with
      | [hour, minute] => (field? 2 0 23 hour).isSome && (field? 2 0 59 minute).isSome
      | _ => false
  | [] => false

/-- Whether a text is a date, a time or both. -/
def isMoment (text : List Char) : Bool :=
  let (date, rest) := (text.take 10, text.drop 10)
  if isDate date then
    match rest with
    | [] => true
    | mark :: rest =>
      let (time, offset) := rest.span fun c => isDigit c || c == ':' || c == '.'
      (mark == 'T' || mark == 't' || mark == ' ') && isTime time && (offset.isEmpty || isOffset offset)
  else isTime text

/-- Whether a character may stand in a number, a word, a date or a time. -/
def isPlain (c : Char) : Bool := isBare c || c == '+' || c == '.' || c == ':'

/-- A date without a time is followed by its time after a blank. -/
def plainToken (text : List Char) : List Char × List Char :=
  let (token, rest) := text.span isPlain
  match rest with
  | ' ' :: d :: after =>
    if isDate token && isDigit d then
      let (time, rest) := (d :: after).span isPlain
      (token ++ ' ' :: time, rest)
    else (token, rest)
  | _ => (token, rest)

/-- An integer: within 64 bits it is a number, and within 128 bits it may stand where it is passed over. -/
def integerDocument (n : Int) : Except String Document :=
  if -(Nat.pow 2 63 : Int) ≤ n ∧ n < Nat.pow 2 64 then .ok (.scalar (.ofNumber (.int n)))
  else if -(Nat.pow 2 127 : Int) ≤ n ∧ n < Nat.pow 2 128 then .ok (.scalar .unreadable)
  else .error "integer number overflowed"

/-- A floating-point number; one that is written by digits has to be finite. -/
def floatDocument (token : List Char) : Extended → Except String Document
  | .finite x => .ok (.scalar (.ofNumber (.real x)))
  | x =>
    if token.any isDigit then .error "floating-point number overflowed"
    else .ok (.scalar { Scalar.unreadable with real := some x })

/-- A value that is neither a string nor a list nor a table. -/
def plain (token : List Char) : Except String Document :=
  if token = "true".toList then .ok (.scalar (.ofBool true))
  else if token = "false".toList then .ok (.scalar (.ofBool false))
  else
    match integer? token, float? token with
    | some n, _ => integerDocument n
    | none, some x => floatDocument token x
    | none, none => if isMoment token then .ok (.scalar .unreadable) else .error "invalid value"

/-! ### Values -/

mutual

/-- A value. -/
def value : Nat → List Char → Except String (Document × List Char)
  | 0, _ => .error "unexpected end of text"
  | fuel + 1, text =>
    match text with
    | '"' :: _ | '\'' :: _ => do
      let (s, rest) ← string text
      return (.scalar (.ofText s), rest)
    | '[' :: rest => do
      let (items, rest) ← items fuel rest
      return (.list items, rest)
    | '\x7b' :: rest => do
      match skipBlanks rest with
      | '\x7d' :: rest => return (.fields [], rest)
      | rest =>
        let (entries, rest) ← entries fuel [] rest
        return ((Tree.table .header entries).document, rest)
    | _ => do
      let (token, rest) := plainToken text
      return (← plain token, rest)

/-- The items of a list up to its closing bracket. -/
def items : Nat → List Char → Except String (List Document × List Char)
  | 0, _ => .error "unexpected end of text"
  | fuel + 1, text => do
    match ← skipLines (text.length + 1) text with
    | ']' :: rest => return ([], rest)
    | rest =>
      let (item, rest) ← value fuel rest
      match ← skipLines (rest.length + 1) rest with
      | ',' :: rest =>
        let (others, rest) ← items fuel rest
        return (item :: others, rest)
      | ']' :: rest => return ([item], rest)
      | _ => .error "expected a comma or a closing bracket"

/-- The entries of a table on one line, up to its closing brace. -/
def entries : Nat → List (String × Tree) → List Char → Except String (List (String × Tree) × List Char)
  | 0, _, _ => .error "unexpected end of text"
  | fuel + 1, known, text => do
    let (path, rest) ← key (text.length + 1) text
    match rest with
    | '=' :: rest =>
      let (item, rest) ← value fuel (skipBlanks rest)
      let known ← assign item path known
      match skipBlanks rest with
      | ',' :: rest => entries fuel known rest
      | '\x7d' :: rest => return (known, rest)
      | _ => .error "expected a comma or a closing brace"
    | _ => .error "expected an equals sign"

end

/-! ### Texts -/

/-- The tables of a text line by line, with the header under which the lines stand. -/
def lines : Nat → List String → List (String × Tree) → List Char → Except String (List (String × Tree))
  | 0, _, _, _ => .error "unexpected end of text"
  | fuel + 1, header, root, text => do
    match ← skipLines (text.length + 1) text with
    | [] => return root
    | '[' :: '[' :: rest =>
      match ← key (rest.length + 1) rest with
      | (path, ']' :: ']' :: rest) =>
        let root ← descend (openItem (path.getLast?.getD "")) path.dropLast root
        lines fuel path root (← endLine rest)
      | _ => .error "expected closing brackets"
    | '[' :: rest =>
      match ← key (rest.length + 1) rest with
      | (path, ']' :: rest) =>
        let root ← descend (openTable (path.getLast?.getD "")) path.dropLast root
        lines fuel path root (← endLine rest)
      | _ => .error "expected a closing bracket"
    | text =>
      match ← key (text.length + 1) text with
      | (path, '=' :: rest) =>
        let (item, rest) ← value (rest.length + 1) (skipBlanks rest)
        let root ← descend (assign item path) header root
        lines fuel header root (← endLine rest)
      | _ => .error "expected an equals sign"

end Reader

/-- The document of a TOML text. -/
def read (text : String) : Except String Document := do
  let text :=
    match text.toList with
    | mark :: rest => if mark.toNat = 0xFEFF then rest else mark :: rest
    | [] => []
  let root ← Reader.lines (text.length + 1) [] [] text
  return (Tree.table .header root).document

end Reconcile.Toml
