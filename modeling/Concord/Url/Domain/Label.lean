/-
  Labels of domain names.

  * `isWellFormed`: a label does not start with a mark, its joiners stand where
    they are of use, and it is not too long to be written in ASCII.
  * `Label.read?`: the label of replaced characters, which may be written in
    ASCII.
-/
import Concord.Text.Composition
import Concord.Text.Joining
import Concord.Url.Domain.Replacement
import Concord.Url.Punycode

namespace Concord.Url.Domain

/-! ## Well-formed labels -/

/-- The character that keeps letters apart. -/
def nonJoiner : Char := '\u200C'

/-- The character that joins letters. -/
def joiner : Char := '\u200D'

/-- The class of marks that take the vowel from a letter. -/
def viramaClass : Nat := 9

/-- Whether the first character that is not transparent is of a class. -/
def startsWith (p : Char → Bool) (cs : List Char) : Bool :=
  ((cs.dropWhile Text.isTransparent).head?.map p).getD false

/-- Whether a joiner is of use between characters, those before it given from
    the last on: after a mark that takes the vowel, or to keep letters apart that
    would join. -/
def joinerFits (c : Char) (before behind : List Char) : Bool :=
  match before with
  | [] => false
  | d :: _ =>
    Text.combiningClass d == viramaClass ||
      (c == nonJoiner && startsWith Text.joinsAfter before && startsWith Text.joinsBefore behind)

/-- Whether all joiners among characters are of use, after given ones. -/
def joinersFit (before : List Char) : List Char → Bool
  | [] => true
  | c :: r => ((c != nonJoiner && c != joiner) || joinerFits c before r) && joinersFit (c :: before) r

/-- Whether characters are all of ASCII. -/
def isAscii (cs : List Char) : Bool := cs.all fun c => c.toNat < 0x80

/-- The length up to which a label can be written in ASCII. -/
def lengthLimit : Nat := 1000

/-- Whether a label starts with a letter, uses its joiners and is not too
    long. -/
def isWellFormed (label : List Char) : Bool :=
  !(label.head?.map Text.isMark).getD false && joinersFit [] label &&
    (isAscii label || label.length ≤ lengthLimit)

/-! ## Reading -/

/-- The length up to which the ASCII form of a label is read. -/
def codedLimit : Nat := 2000

/-- A label, and its form in ASCII. -/
structure Label where
  characters : List Char
  ascii : List Char

namespace Label

/-- The label behind the mark of the ASCII form.  The form has to be one of a
    label that needs it and is written in the shortest way. -/
def ofCode? (cs : List Char) : Option (List Char) :=
  if !isAscii cs || cs.isEmpty || cs.getLast? = some '-' || codedLimit < cs.length then none
  else do
    let label ← Punycode.decode? cs
    if label.all isStable && Text.compose label = label then some label else none

/-- The label of characters. -/
def read? (cs : List Char) : Option Label := do
  let label ←
    if Punycode.mark.isPrefixOf cs then
      let characters ← ofCode? (cs.drop Punycode.mark.length)
      some ⟨characters, cs⟩
    else some ⟨cs, Punycode.encodeLabel cs⟩
  if isWellFormed label.characters then some label else none

end Label

end Concord.Url.Domain
