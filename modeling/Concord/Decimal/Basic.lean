/-
  Decimal numbers and their texts.

  A `Decimal` is a sign, a whole number of digits and a power of ten, reduced:
  the digits end in no zero, so a number other than zero has one form.  Zero
  keeps its sign.

  * `reduce` drops the zeros at the end of the digits.
  * `plain`, `pointed` and `scientific` are the three notations; `json` takes
    `pointed` while the point falls near the digits and `scientific` outside.
-/

namespace Concord

/-- A decimal number `± digits · 10 ^ exponent`. -/
structure Decimal where
  /-- Whether the number carries a minus sign. -/
  negative : Bool
  /-- The significant digits, read as a whole number. -/
  digits : Nat
  /-- The power of ten that the digits are multiplied by. -/
  exponent : Int
  /-- The digits end in no zero, unless the number is zero. -/
  reduced : digits % 10 ≠ 0 ∨ (digits = 0 ∧ exponent = 0)
  deriving DecidableEq

namespace Decimal

/-- Zero with a sign. -/
def zero (negative : Bool) : Decimal := ⟨negative, 0, 0, Or.inr ⟨rfl, rfl⟩⟩

instance : Inhabited Decimal := ⟨zero false⟩

/-- The number `± digits · 10 ^ exponent`. -/
def reduce (negative : Bool) (digits : Nat) (exponent : Int) : Decimal :=
  if h : digits % 10 = 0 then
    if digits = 0 then zero negative else reduce negative (digits / 10) (exponent + 1)
  else ⟨negative, digits, exponent, Or.inl h⟩
termination_by digits
decreasing_by omega

/-- Equality as numbers: zero is equal to minus zero. -/
def same (a b : Decimal) : Bool :=
  a.digits == b.digits && a.exponent == b.exponent && (a.negative == b.negative || a.digits == 0)

/-! ## Notations -/

/-- How many places the point stands to the right of the start of the digits. -/
def pointAt (d : Decimal) : Int := (Nat.toDigits 10 d.digits).length + d.exponent

/-- The digits before the point, filled up with zeros. -/
def wholePart (d : Decimal) : List Char :=
  let ds := Nat.toDigits 10 d.digits
  if 0 < d.pointAt then ds.take d.pointAt.toNat ++ List.replicate d.exponent.toNat '0' else ['0']

/-- The digits after the point. -/
def fraction (d : Decimal) : List Char :=
  let ds := Nat.toDigits 10 d.digits
  if 0 < d.pointAt then ds.drop d.pointAt.toNat else List.replicate (-d.pointAt).toNat '0' ++ ds

/-- Puts the sign before an unsigned text. -/
def signed (d : Decimal) (text : List Char) : String :=
  String.ofList (if d.negative then '-' :: text else text)

/-- All digits in their places, with a point only before a fraction: `10`,
    `0.1`, `-0`. -/
def plain (d : Decimal) : String :=
  d.signed (d.wholePart ++ if d.fraction.isEmpty then [] else '.' :: d.fraction)

/-- All digits in their places, with a fraction always: `10.0`, `0.1`. -/
def pointed (d : Decimal) : String :=
  d.signed (d.wholePart ++ '.' :: if d.fraction.isEmpty then ['0'] else d.fraction)

/-- One digit before the point and a power of ten with its sign: `1.5e+16`,
    `1e-7`. -/
def scientific (d : Decimal) : String :=
  let mantissa : List Char :=
    match Nat.toDigits 10 d.digits with
    | [] => []
    | [c] => [c]
    | c :: r => c :: '.' :: r
  let power := d.pointAt - 1
  d.signed (mantissa ++ 'e' :: (if power < 0 then '-' else '+') :: Nat.toDigits 10 power.natAbs)

/-- The text of a number in a JSON document: in places while at most four
    zeros follow the point or sixteen digits precede it, in powers of ten
    otherwise. -/
def json (d : Decimal) : String :=
  if -5 < d.pointAt && d.pointAt ≤ 16 then d.pointed else d.scientific

end Decimal

end Concord
