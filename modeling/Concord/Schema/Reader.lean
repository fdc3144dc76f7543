/-
  Values read from JSON texts by their shape.

  The shape is known while the text is read.  So a member that a record does
  not know is passed over without a look at its numbers and characters, a
  member that a record knows must not be given twice, and of equal names in a
  dictionary the last wins, but every value must have the shape.

  * `Json.skip`: the characters after a value that nobody asks for.
  * `Shape.readChars`: the canonical form of a value, and the characters after
    it.
  * `Shape.ofText?`: the canonical form of the value of a whole text.
-/
import Concord.Json.Reader
import Concord.Schema.Basic

namespace Concord

namespace Json

/-! ## Elements -/

/-- Comma-separated elements, if there are any, up to a closing character. -/
def elements {α : Type} (close : Char) (element : List Char → Option (α × List Char))
    (cs : List Char) : Option (List α × List Char) :=
  match skipSpace cs with
  | c :: r => if c = close then some ([], r) else sequence close element (r.length + 1) (c :: r)
  | [] => none

/-- A key, a colon and what is read of the value under the key. -/
def keyed {α : Type} (value : String → List Char → Option (α × List Char)) (cs : List Char) :
    Option (α × List Char) :=
  match skipSpace cs with
  | '"' :: r => do
    let (k, cs) ← stringChars [] r
    match skipSpace cs with
    | ':' :: r => value k r
    | _ => none
  | _ => none

/-! ## Values that nobody asks for -/

/-- The characters after a string, of which the opening quote was read. -/
def skipString : List Char → Option (List Char)
  | '"' :: r => some r
  | '\\' :: 'u' :: a :: b :: c :: d :: r =>
    if (hex4 a b c d).isSome then skipString r else none
  | '\\' :: c :: r =>
    if ['"', '\\', '/', 'b', 'f', 'n', 'r', 't'].contains c then skipString r else none
  | c :: r => if c.toNat < 0x20 then none else skipString r
  | [] => none

/-- The characters after the exponent of a number, if it has one. -/
def skipExponent : List Char → Option (List Char)
  | 'e' :: r | 'E' :: r =>
    let digits :=
      match r with
      | '+' :: r | '-' :: r => r
      | _ => r
    if (digits.takeWhile Char.isDigit).isEmpty then none else some (digits.dropWhile Char.isDigit)
  | cs => some cs

/-- The characters after a number of which the sign was read. -/
def skipUnsigned (cs : List Char) : Option (List Char) :=
  let whole := cs.takeWhile Char.isDigit
  if whole.isEmpty || (whole.head? = some '0' && 1 < whole.length) then none
  else
    match cs.dropWhile Char.isDigit with
    | '.' :: r =>
      if (r.takeWhile Char.isDigit).isEmpty then none else skipExponent (r.dropWhile Char.isDigit)
    | rest => skipExponent rest

/-- The characters after a number. -/
def skipNumber : List Char → Option (List Char)
  | '-' :: r => skipUnsigned r
  | cs => skipUnsigned cs

/-- The characters after a value; the fuel bounds its nesting. -/
def skipValue : Nat → List Char → Option (List Char)
  | 0, _ => none
  | fuel + 1, cs =>
    let element := fun cs => (skipValue fuel cs).map fun rest => ((), rest)
    match skipSpace cs with
    | 'n' :: 'u' :: 'l' :: 'l' :: r => some r
    | 't' :: 'r' :: 'u' :: 'e' :: r => some r
    | 'f' :: 'a' :: 'l' :: 's' :: 'e' :: r => some r
    | '"' :: r => skipString r
    | '[' :: r => (elements ']' element r).map fun (_, rest) => rest
    | '{' :: r =>
      let member := fun cs =>
        match skipSpace cs with
        | '"' :: r => (skipString r).bind fun cs =>
          match skipSpace cs with
          | ':' :: r => element r
          | _ => none
        | _ => none
      (elements '}' member r).map fun (_, rest) => rest
    | cs => skipNumber cs

/-- The characters after a value, of which none is looked at more closely than
    to find its end. -/
def skip (cs : List Char) : Option (List Char) := skipValue (cs.length + 1) cs

end Json

namespace Shape

open Json

/-! ## Reading texts -/

/-- The record of the members found, of which none may be there twice. -/
def gather (fields : List (String × Shape × Option Json)) (found : List (String × Json)) :
    Option Json :=
  if found.Pairwise fun e e' => e.1 ≠ e'.1 then (assemble fields found).toOption else none

mutual

/-- The canonical form of a value of a shape that nests at most `depth` deep,
    and the characters after it. -/
def readChars : Shape → Nat → List Char → Option (Json × List Char)
  | .any, depth, cs => Json.value depth cs
  | .text, _, cs =>
    match skipSpace cs with
    | '"' :: r => (stringChars [] r).map fun (s, rest) => (.str s, rest)
    | _ => none
  | .list item, depth, cs =>
    match skipSpace cs, depth with
    | '[' :: r, depth + 1 =>
      (elements ']' (readChars item depth) r).map fun (js, rest) => (.arr js, rest)
    | _, _ => none
  | .dict nullable item, depth, cs =>
    match skipSpace cs, depth with
    | 'n' :: 'u' :: 'l' :: 'l' :: r, _ => if nullable then some (.null, r) else none
    | '{' :: r, depth + 1 =>
      (elements '}' (member (readChars item depth)) r).map fun (ms, rest) => (ofMembers ms, rest)
    | _, _ => none
  | .record _ fields, depth, cs =>
    match skipSpace cs, depth with
    | '{' :: r, depth + 1 =>
      (elements '}' (keyed (readField fields depth)) r).bind fun (ms, rest) =>
        (gather fields (ms.filterMap id)).map fun j => (j, rest)
    | '[' :: r, depth + 1 =>
      (readListed fields depth true r).map fun (ms, rest) => (ofMembers ms, rest)
    | _, _ => none

/-- The member of a record under a key; nothing of a value that it does not
    know. -/
def readField : List (String × Shape × Option Json) → Nat → String → List Char →
    Option (Option (String × Json) × List Char)
  | [], _, _, cs => (skip cs).map fun rest => (none, rest)
  | (name, shape, _) :: fields, depth, k, cs =>
    if k = name then (readChars shape depth cs).map fun (j, rest) => (some (k, j), rest)
    else readField fields depth k cs

/-- The members of a record that are listed in the order of its shape, up to the
    closing bracket; the others must have defaults. -/
def readListed : List (String × Shape × Option Json) → Nat → Bool → List Char →
    Option (List (String × Json) × List Char)
  | [], _, _, cs =>
    match skipSpace cs with
    | ']' :: r => some ([], r)
    | _ => none
  | (name, shape, default?) :: fields, depth, first, cs =>
    match skipSpace cs with
    | ']' :: r =>
      (complete [] ((name, shape, default?) :: fields)).toOption.map fun ms => (ms, r)
    | cs =>
      let start :=
        match cs with
        | ',' :: r => if first then none else some r
        | _ => if first then some cs else none
      start.bind fun cs => (readChars shape depth cs).bind fun (j, cs) =>
        (readListed fields depth false cs).map fun (ms, rest) => ((name, j) :: ms, rest)

end

/-- The canonical form of the value of a text that holds one value and white
    space around it. -/
def ofText? (shape : Shape) (s : String) : Option Json :=
  match shape.readChars depthLimit s.toList with
  | some (j, rest) => if (skipSpace rest).isEmpty then some j else none
  | none => none

end Shape

end Concord
