/-
  Schemas: which values a document may hold where.

  A `Shape` describes a value.  Reading a value by a shape gives its canonical
  form: a record has exactly the members of its shape, missing ones filled in
  from their defaults and unknown ones left out.

  * `Mismatch`: why a value has not its shape; `Mismatch.message` words it.
  * `Shape.read`: the canonical form of a JSON value.  Members are looked at in
    the order of the value, missing ones afterwards in the order of the shape;
    an array may stand for a record, with the members in the order of the shape.
-/
import Concord.Json.Text
import Concord.Text.Quoted

namespace Concord

/-! ## Shapes -/

/-- The form that a value must have. -/
inductive Shape where
  /-- A text. -/
  | text
  /-- Any value. -/
  | any
  /-- A list of values of one shape. -/
  | list (item : Shape)
  /-- Values of one shape under any names; `null` may stand for none. -/
  | dict (nullable : Bool) (item : Shape)
  /-- Named members, each with its shape and with a default if it may be
      missing. -/
  | record (name : String) (fields : List (String × Shape × Option Json))

namespace Shape

/-- What a value of a shape is called in an error. -/
def expected : Shape → String
  | text => "a string"
  | any => "any valid JSON value"
  | list _ => "a sequence"
  | dict _ _ => "a map"
  | record name _ => "struct " ++ name

/-- What the members of a record in a list are called in an error. -/
def expectedLength (name : String) (count : Nat) : String :=
  "struct " ++ name ++ " with " ++ toString count ++ (if count = 1 then " element" else " elements")

end Shape

/-! ## Mismatches -/

/-- Why a value has not its shape. -/
inductive Mismatch where
  /-- A value of another type. -/
  | wrongType (found expected : String)
  /-- A value of the type that cannot stand here. -/
  | wrongValue (found expected : String)
  /-- A list with too few or too many items. -/
  | wrongLength (found : Nat) (expected : String)
  /-- A member without default that is missing. -/
  | missing (field : String)
  /-- A member that is there twice. -/
  | duplicate (field : String)
  /-- A number beyond the range of JSON numbers. -/
  | outOfRange
  deriving DecidableEq, Repr

/-- A name in an error. -/
def inTicks (s : String) : String := "\x60" ++ s ++ "\x60"

/-- The wording of a mismatch. -/
def Mismatch.message : Mismatch → String
  | wrongType found expected => s!"invalid type: {found}, expected {expected}"
  | wrongValue found expected => s!"invalid value: {found}, expected {expected}"
  | wrongLength found expected => s!"invalid length {found}, expected {expected}"
  | missing field => "missing field " ++ inTicks field
  | duplicate field => "duplicate field " ++ inTicks field
  | outOfRange => "JSON number out of range"

/-- What a JSON value is called in an error. -/
def Json.called : Json → String
  | .null => "null"
  | .bool b => "boolean " ++ inTicks (if b then "true" else "false")
  | .int n => "integer " ++ inTicks (toString n)
  | .float d => "floating point " ++ inTicks d.json
  | .str s => "string " ++ Text.quote s
  | .arr _ => "sequence"
  | .obj _ => "map"

namespace Shape

/-! ## Records -/

/-- The members of a record: those found, and the defaults of the others. -/
def complete (found : List (String × Json)) :
    List (String × Shape × Option Json) → Except Mismatch (List (String × Json))
  | [] => .ok []
  | (name, _, default?) :: r =>
    match (found.lookup name).or default? with
    | some v => (complete found r).map ((name, v) :: ·)
    | none => .error (.missing name)

/-- The record of the members found. -/
def assemble (fields : List (String × Shape × Option Json)) (found : List (String × Json)) :
    Except Mismatch Json :=
  (complete found fields).map Json.ofMembers

/-- The record of a list with fewer items than members: the others must have
    defaults. -/
def fillUp (name : String) (total taken : Nat) :
    List (String × Shape × Option Json) → Except Mismatch (List (String × Json))
  | [] => .ok []
  | (field, _, default?) :: r =>
    match default? with
    | some v => (fillUp name total (taken + 1) r).map ((field, v) :: ·)
    | none => .error (.wrongLength taken (expectedLength name total))

/-! ## Reading -/

mutual

/-- The canonical form of a value of a shape. -/
def read : Shape → Json → Except Mismatch Json
  | .any, j => .ok j
  | .text, .str s => .ok (.str s)
  | .list item, .arr js => (readItems item js).map .arr
  | .dict true _, .null => .ok .null
  | .dict _ item, .obj ms => (readEntries item ms).map Json.ofMembers
  | .record _ fields, .obj ms => (readMembers fields ms).bind (assemble fields)
  | .record name fields, .arr js =>
    (readPositions name fields.length js.length 0 fields js).map Json.ofMembers
  | shape, j => .error (.wrongType j.called shape.expected)

/-- The canonical forms of items of one shape. -/
def readItems (item : Shape) : List Json → Except Mismatch (List Json)
  | [] => .ok []
  | j :: r => do
    let v ← read item j
    let vs ← readItems item r
    .ok (v :: vs)

/-- The canonical forms of values of one shape under any names. -/
def readEntries (item : Shape) : List (String × Json) → Except Mismatch (List (String × Json))
  | [] => .ok []
  | (k, j) :: r => do
    let v ← read item j
    let vs ← readEntries item r
    .ok ((k, v) :: vs)

/-- The canonical forms of the members of a record that its shape knows. -/
def readMembers (fields : List (String × Shape × Option Json)) :
    List (String × Json) → Except Mismatch (List (String × Json))
  | [] => .ok []
  | (k, j) :: r =>
    match fields.lookup k with
    | none => readMembers fields r
    | some (shape, _) => do
      let v ← read shape j
      let vs ← readMembers fields r
      .ok ((k, v) :: vs)

/-- The members of a record that are listed in the order of its shape. -/
def readPositions (name : String) (total given taken : Nat) :
    List (String × Shape × Option Json) → List Json → Except Mismatch (List (String × Json))
  | fields, [] => fillUp name total taken fields
  | [], _ :: _ => .error (.wrongLength given "fewer elements in array")
  | (field, shape, _) :: fields, j :: r => do
    let v ← read shape j
    let vs ← readPositions name total given (taken + 1) fields r
    .ok ((field, v) :: vs)

end

end Shape

end Concord
