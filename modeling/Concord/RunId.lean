/-
  Identifiers of runs: thirty-two hexadecimal digits in five groups.

  * `RunId.text`: the digits in small letters, with a hyphen between groups.
  * `RunId.read?`: the same text for any of the forms of an identifier, which
    are the digits alone, the groups with hyphens, and the groups in braces or
    behind a mark.
  * `RunId.ofBytes`: an identifier that marks its digits as drawn by lot.
-/
import Concord.Json.Text

namespace Concord.RunId

/-- The lengths of the groups. -/
def groups : List Nat := [8, 4, 4, 4, 12]

/-- Characters in pieces of given lengths. -/
def split : List Nat → List Char → List (List Char)
  | [], _ => []
  | n :: r, cs => cs.take n :: split r (cs.drop n)

/-- An identifier as it is written. -/
def text (digits : List Char) : String :=
  "-".intercalate ((split groups (digits.map Char.toLower)).map String.ofList)

/-- Whether a character is a hexadecimal digit. -/
def isDigit (c : Char) : Bool :=
  c.isDigit || ('a' ≤ c.toLower && c.toLower ≤ 'f')

/-- The identifier of digits that stand alone. -/
def ofDigits? (cs : List Char) : Option String :=
  if cs.length = 32 ∧ cs.all isDigit then some (text cs) else none

/-- The identifier of groups with hyphens between them. -/
def ofGroups? (cs : List Char) : Option String :=
  let pieces := cs.splitOn '-'
  if pieces.map List.length = groups then ofDigits? pieces.flatten else none

/-- The characters behind a mark at the start, if it stands there. -/
def behind? (mark : String) (cs : List Char) : Option (List Char) :=
  if mark.toList.isPrefixOf cs then some (cs.drop mark.length) else none

/-- The identifier that a text stands for. -/
def read? (s : String) : Option String :=
  let cs := s.toList
  match cs, behind? "urn:uuid:" cs with
  | '\x7b' :: r, _ => if r.getLast? = some '\x7d' then ofGroups? r.dropLast else none
  | _, some r => ofGroups? r
  | _, none => (ofDigits? cs).or (ofGroups? cs)

/-- The identifier of sixteen bytes; a digit says that they are drawn by lot,
    and another one begins with the bits of this form. -/
def ofBytes (bytes : List UInt8) : String :=
  let digits := bytes.flatMap fun b =>
    [Json.hexDigit (b.toNat / 16), Json.hexDigit (b.toNat % 16)]
  text ((digits.set 12 '4').set 16 (Json.hexDigit (8 + (bytes.getD 8 0).toNat % 4)))

end Concord.RunId
