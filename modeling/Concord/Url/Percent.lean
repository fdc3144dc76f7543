/-
  Percent-encoding in URLs.

  A character that may not stand in a part of a URL is written as its bytes,
  each as a percent sign and two digits.  Every part has a set of such
  characters; each set contains the control characters and all that is not
  ASCII.

  * `encode`: a text with the characters of a set encoded.
  * `decode`: the bytes of a text, encoded or not.
-/

namespace Concord.Url.Percent

/-! ## Sets -/

/-- Control characters and characters beyond ASCII. -/
def control (c : Char) : Bool := c.toNat < 0x20 || 0x7E < c.toNat

/-- What is encoded in a fragment. -/
def fragment (c : Char) : Bool := control c || c ∈ [' ', '"', '<', '>', '\x60']

/-- What is encoded in a query. -/
def query (c : Char) : Bool := control c || c ∈ [' ', '"', '#', '<', '>']

/-- What is encoded in the query of a URL whose scheme is special. -/
def specialQuery (c : Char) : Bool := query c || c = '\''

/-- What is encoded in a path. -/
def path (c : Char) : Bool := fragment c || c ∈ ['#', '?', '\x7b', '\x7d']

/-- What is encoded in the name and the password of a user. -/
def user (c : Char) : Bool := path c || c ∈ ['/', ':', ';', '=', '@', '[', '\\', ']', '^', '|']

/-! ## Encoding -/

/-- The digit of a number below sixteen. -/
def digit (n : Nat) : Char := "0123456789ABCDEF".toList.getD n '0'

/-- A byte as a percent sign and two digits. -/
def encodeByte (b : UInt8) : List Char := ['%', digit (b.toNat / 16), digit (b.toNat % 16)]

/-- A text with the characters of a set encoded. -/
def encode (set : Char → Bool) (cs : List Char) : List Char :=
  cs.flatMap fun c => if set c then (String.utf8EncodeChar c).flatMap encodeByte else [c]

/-! ## Decoding -/

/-- The value of a hexadecimal digit. -/
def digitValue? (c : Char) : Option Nat :=
  if c.isDigit then some (c.toNat - '0'.toNat)
  else if 'a' ≤ c ∧ c ≤ 'f' then some (c.toNat - 'a'.toNat + 10)
  else if 'A' ≤ c ∧ c ≤ 'F' then some (c.toNat - 'A'.toNat + 10)
  else none

/-- The byte that two digits stand for. -/
def byte? (high low : Char) : Option UInt8 := do
  let h ← digitValue? high
  let l ← digitValue? low
  return (16 * h + l).toUInt8

/-- The bytes of a text; a percent sign without two digits stands for itself. -/
def decode : List Char → List UInt8
  | '%' :: high :: low :: r =>
    match byte? high low with
    | some b => b :: decode r
    | none => '%'.toNat.toUInt8 :: decode (high :: low :: r)
  | c :: r => String.utf8EncodeChar c ++ decode r
  | [] => []

/-- The text that an encoded text stands for, if its bytes are text. -/
def decodeText? (cs : List Char) : Option (List Char) :=
  (String.fromUTF8? (ByteArray.mk (decode cs).toArray)).map String.toList

end Concord.Url.Percent
