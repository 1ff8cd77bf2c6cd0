import Reconcile.Digest.Sha256

/-!
# Bytes as text

Hexadecimal and base-64 forms of bytes, and the identifier of 128 bits that is derived from
a hash.
-/

namespace Reconcile

/-- The bytes of a text. -/
def utf8 (text : String) : List UInt8 := text.toUTF8.toList

/-- Two lower-case hexadecimal digits for every byte. -/
def hexText (bytes : List UInt8) : List Char :=
  bytes.flatMap fun byte =>
    let digit (n : Nat) : Char := (Nat.toDigits 16 n).headD '0'
    [digit (byte.toNat / 16), digit (byte.toNat % 16)]

/-- The hexadecimal SHA-256 hash of a text. -/
def sha256Hex (text : String) : String := String.ofList (hexText (Sha256.hash (utf8 text)))

/-- The character for six bits. -/
def base64Digit (n : Nat) : Char :=
  if n < 26 then Char.ofNat ('A'.toNat + n)
  else if n < 52 then Char.ofNat ('a'.toNat + (n - 26))
  else if n < 62 then Char.ofNat ('0'.toNat + (n - 52))
  else if n = 62 then '+' else '/'

/-- Four characters for every three bytes, filled up with equals signs. -/
def base64 : List UInt8 → List Char
  | a :: b :: c :: rest =>
    let n := a.toNat * 65536 + b.toNat * 256 + c.toNat
    base64Digit (n / 262144) :: base64Digit (n / 4096 % 64) :: base64Digit (n / 64 % 64)
      :: base64Digit (n % 64) :: base64 rest
  | [a, b] =>
    let n := a.toNat * 65536 + b.toNat * 256
    [base64Digit (n / 262144), base64Digit (n / 4096 % 64), base64Digit (n / 64 % 64), '=']
  | [a] =>
    let n := a.toNat * 65536
    [base64Digit (n / 262144), base64Digit (n / 4096 % 64), '=', '=']
  | [] => []

/-- A universally unique identifier made of the first sixteen bytes, with the bits that mark a
random identifier set, in groups of 8, 4, 4, 4 and 12 digits. -/
def uuidText (bytes : List UInt8) : String :=
  let marked := (bytes.take 16).mapIdx fun i byte =>
    if i = 6 then (byte &&& 0x0f) ||| 0x40 else if i = 8 then (byte &&& 0x3f) ||| 0x80 else byte
  let digits := hexText marked
  let group (start length : Nat) : List Char := (digits.drop start).take length
  String.ofList
    (List.intercalate ['-'] [group 0 8, group 8 4, group 12 4, group 16 4, group 20 12])

end Reconcile
