/-
  What scalars stand for.

  A plain scalar without a tag stands for `null`, a truth value, a number or,
  failing these, for its text.  Numbers are decimal, or hexadecimal, octal or
  binary after `0x`, `0o`, `0b`; digits after a leading zero are a text.  A tag
  of the core schema asks for a type.

  * `Scalar.ofPlain`: what the text of a plain scalar stands for.
  * `Scalar.of`: what a scalar with its tag and style stands for.
-/
import Concord.Decimal.Measure
import Concord.Json.Basic
import Concord.Schema.Basic
import Concord.Yaml.Token

namespace Concord.Yaml

/-- What a scalar stands for. -/
inductive Scalar where
  | null
  | bool (b : Bool)
  /-- A whole number that fits in 64 bits. -/
  | int (n : Int)
  /-- A whole number that fits in 128 bits only, with or without a sign. -/
  | wide (n : Int)
  | float (m : Measure)
  | text (s : String)

namespace Scalar

/-! ## Plain scalars -/

/-- The words for no value. -/
def nullWords : List String := ["null", "Null", "NULL", "~"]

/-- The words for true. -/
def trueWords : List String := ["true", "True", "TRUE"]

/-- The words for false. -/
def falseWords : List String := ["false", "False", "FALSE"]

/-- The truth value of a word. -/
def bool? (s : String) : Option Bool :=
  if trueWords.contains s then some true else if falseWords.contains s then some false else none

/-- The value of a digit of a base. -/
def digit? (base : Nat) (c : Char) : Option Nat :=
  let n :=
    if c.isDigit then c.toNat - '0'.toNat
    else if 'a' ≤ c ∧ c ≤ 'z' then c.toNat - 'a'.toNat + 10
    else if 'A' ≤ c ∧ c ≤ 'Z' then c.toNat - 'A'.toNat + 10
    else base
  if n < base then some n else none

/-- The number of digits of a base. -/
def natural? (base : Nat) (cs : List Char) : Option Nat :=
  if cs.isEmpty then none else cs.foldlM (fun n c => (digit? base c).map (n * base + ·)) 0

/-- Whether a text is a number with a leading zero: only digits, of which the
    first is a zero and not the last. -/
def hasLeadingZero (cs : List Char) : Bool :=
  match cs with
  | '0' :: c :: r => (c :: r).all Char.isDigit
  | _ => false

/-- A number without a sign, in one of the bases. -/
def magnitude? (cs : List Char) : Option Nat :=
  let based :=
    match cs with
    | '0' :: 'x' :: r => natural? 16 r
    | '0' :: 'o' :: r => natural? 8 r
    | '0' :: 'b' :: r => natural? 2 r
    | _ => none
  based.or (if hasLeadingZero cs then none else natural? 10 cs)

/-- A whole number, unless it does not fit in 128 bits. -/
def whole? (s : String) : Option Scalar :=
  match s.toList with
  | '-' :: r =>
    (magnitude? r).bind fun n =>
      if n ≤ 9223372036854775808 then some (int (-n))
      else if n ≤ 170141183460469231731687303715884105728 then some (wide (-n))
      else none
  | cs =>
    let cs := match cs with | '+' :: r => r | _ => cs
    (magnitude? cs).bind fun n =>
      if n ≤ 18446744073709551615 then some (int n)
      else if n ≤ 340282366920938463463374607431768211455 then some (wide n)
      else none

/-- A number with a point or a power of ten, an infinity or no number. -/
def float? (s : String) : Option Measure :=
  let cs := s.toList
  let unsigned := String.ofList (match cs with | '+' :: r => r | _ => cs)
  let twoSigns :=
    match cs with
    | '+' :: c :: _ => c == '+' || c == '-'
    | _ => false
  if twoSigns then none
  else if [".inf", ".Inf", ".INF"].contains unsigned then some (.infinite false)
  else if ["-.inf", "-.Inf", "-.INF"].contains s then some (.infinite true)
  else if [".nan", ".NaN", ".NAN"].contains s then some .notANumber
  else
    match Measure.read? unsigned with
    | some (.finite d) => some (.finite d)
    | _ => none

/-- What the text of a plain scalar stands for. -/
def ofPlain (s : String) : Scalar :=
  if s.isEmpty || nullWords.contains s then null
  else
    match bool? s with
    | some b => bool b
    | none =>
      match whole? s with
      | some n => n
      | none =>
        let unsigned := match s.toList with | '+' :: r | '-' :: r => r | cs => cs
        if hasLeadingZero unsigned then text s
        else
          match float? s with
          | some m => float m
          | none => text s

/-! ## Tags -/

/-- A tag of the core schema. -/
def coreTag (name : String) : TagBytes := TagBytes.ofString ("tag:yaml.org,2002:" ++ name)

/-- A text that is not of the type that its tag asks for. -/
def notA (type s : String) : Mismatch := .wrongValue ("string " ++ Text.quote s) type

/-- What a scalar stands for. -/
def of (tag : Option TagBytes) (plain : Bool) (s : String) : Except Mismatch Scalar :=
  match tag with
  | none => .ok (if plain then ofPlain s else text s)
  | some t =>
    if t = coreTag "bool" then
      match bool? s with
      | some b => .ok (bool b)
      | none => .error (notA "a boolean" s)
    else if t = coreTag "int" then
      match whole? s with
      | some n => .ok n
      | none => .error (notA "an integer" s)
    else if t = coreTag "float" then
      match float? s with
      | some m => .ok (float m)
      | none => .error (notA "a float" s)
    else if t = coreTag "null" then
      if nullWords.contains s then .ok null else .error (notA "null" s)
    else if plain && t.isLocal then .ok (ofPlain s)
    else .ok (text s)

/-! ## Values -/

/-- The JSON value of a scalar; infinities and no number become `null`. -/
def toJson : Scalar → Except Mismatch Json
  | null => .ok .null
  | bool b => .ok (.bool b)
  | int n => .ok (.int n)
  | wide _ => .error .outOfRange
  | float (.finite d) => .ok (.float d)
  | float _ => .ok .null
  | text s => .ok (.str s)

/-- What a scalar is called in an error. -/
def called : Scalar → String
  | null => "unit value"
  | bool b => "boolean " ++ inTicks (if b then "true" else "false")
  | int n => "integer " ++ inTicks (toString n)
  | wide n => "integer " ++ inTicks (toString n) ++ (if n < 0 then " as i128" else " as u128")
  | float (.finite d) => "floating point " ++ inTicks d.pointed
  | float m => "floating point " ++ inTicks m.text
  | text s => "string " ++ Text.quote s

end Scalar

end Concord.Yaml
