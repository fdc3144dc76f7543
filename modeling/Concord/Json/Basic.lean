/-
  JSON values.

  Whole numbers and decimals are kept apart, as their texts keep them apart.
  The members of an object are listed in the order in which they are written;
  a value that was read has them in increasing order of their keys.

  * `ofDict` and `members` pass between objects and dictionaries.
  * `same` compares values; decimals are compared as numbers.
-/
import Concord.Decimal.Basic
import Concord.Dict

namespace Concord

/-- A JSON value. -/
inductive Json where
  | null
  | bool (b : Bool)
  | int (n : Int)
  | float (d : Decimal)
  | str (s : String)
  | arr (items : List Json)
  | obj (members : List (String × Json))

namespace Json

instance : Inhabited Json := ⟨null⟩

/-- The object of a dictionary, its members by key. -/
def ofDict (d : Dict Json) : Json := obj d.entries

/-- The object of a list of members, by key; of equal keys the last wins. -/
def ofMembers (l : List (String × Json)) : Json := ofDict (Dict.ofList l)

/-- The members of an object as a dictionary; none of any other value. -/
def members : Json → Dict Json
  | obj l => Dict.ofList l
  | _ => Dict.empty

/-- The items of an array; none of any other value. -/
def items : Json → List Json
  | arr l => l
  | _ => []

/-- The text of a string; the empty one for any other value. -/
def text : Json → String
  | str s => s
  | _ => ""

/-- The value of a member of an object. -/
def get? (j : Json) (k : String) : Option Json :=
  match j with
  | obj l => l.lookup k
  | _ => none

/-- The value of a member of an object, `null` where there is none. -/
def get (j : Json) (k : String) : Json := (j.get? k).getD null

/-- The array of texts. -/
def texts (l : List String) : Json := arr (l.map str)

mutual

/-- Equality of values; decimals are equal as numbers. -/
def same : Json → Json → Bool
  | null, null => true
  | bool a, bool b => a == b
  | int a, int b => a == b
  | float a, float b => a.same b
  | str a, str b => a == b
  | arr a, arr b => sameItems a b
  | obj a, obj b => sameMembers a b
  | _, _ => false

/-- Equality of lists of items. -/
def sameItems : List Json → List Json → Bool
  | [], [] => true
  | a :: r, b :: s => same a b && sameItems r s
  | _, _ => false

/-- Equality of lists of members. -/
def sameMembers : List (String × Json) → List (String × Json) → Bool
  | [], [] => true
  | (k, a) :: r, (l, b) :: s => k == l && same a b && sameMembers r s
  | _, _ => false

end

end Json

end Concord
