/-
  Double precision: the finite binary numbers `m · 2 ^ e` with a significand
  below `2 ^ 53` and an exponent between -1074 and 971.

  * `nearest` rounds a quotient of whole numbers to the nearest such number, a
    tie to the even significand; it has no result beyond the largest one.
  * `shortest` gives the fewest decimal digits that read back as the number,
    and of those the nearest to it.
  * `Decimal.ofDigits?` composes the two: the decimal form of the double
    nearest to a decimal number.
-/
import Concord.Decimal.Basic

namespace Concord

/-- The magnitude `significand · 2 ^ exponent` of a finite double. -/
structure Double where
  /-- The significand, below `2 ^ 53`. -/
  significand : Nat
  /-- The power of two, at least -1074. -/
  exponent : Int
  deriving DecidableEq

namespace Double

/-- The quotient of `num` and `den`, rounded to a whole number, a tie to the
    even one. -/
def divEven (num den : Nat) : Nat :=
  let q := num / den
  let r := num % den
  if 2 * r < den then q else if den < 2 * r then q + 1 else q + q % 2

/-- `num / den · 2 ^ (-e)`, rounded to a whole number. -/
def scaled (num den : Nat) (e : Int) : Nat :=
  divEven (num * Nat.pow 2 (-e).toNat) (den * Nat.pow 2 e.toNat)

/-- The double nearest to `num / den`, unless it is too large. -/
def nearest (num den : Nat) : Option Double :=
  if num = 0 then some ⟨0, -1074⟩ else
  let guess : Int := (Nat.log2 num : Int) - Nat.log2 den - 52
  let tooCoarse := num * Nat.pow 2 (-guess).toNat < den * Nat.pow 2 (guess.toNat + 52)
  let e := max (if tooCoarse then guess - 1 else guess) (-1074)
  let m := scaled num den e
  let d : Double := if m = Nat.pow 2 53 then ⟨Nat.pow 2 52, e + 1⟩ else ⟨m, e⟩
  if d.exponent ≤ 971 then some d else none

/-- The double as a quotient of whole numbers. -/
def ratio (d : Double) : Nat × Nat :=
  (d.significand * Nat.pow 2 d.exponent.toNat, Nat.pow 2 (-d.exponent).toNat)

/-- The double nearest to `digits · 10 ^ exponent`, unless it is too large.
    Powers of ten that no double reaches are not computed. -/
def ofDigits (digits : Nat) (exponent : Int) : Option Double :=
  let atLeast := (Nat.log2 digits : Int) * 3 / 10 + exponent
  if digits = 0 || exponent + Nat.log2 digits < -400 then some ⟨0, -1074⟩
  else if 400 < atLeast then none
  else nearest (digits * Nat.pow 10 exponent.toNat) (Nat.pow 10 (-exponent).toNat)

/-! ## Fewest digits -/

/-- The reals that round to a double, in units of a quarter of its last place:
    the number itself and the two ends of the interval. -/
def interval (d : Double) : Nat × Nat × Nat :=
  let centre := 4 * d.significand
  let below := if d.significand = Nat.pow 2 52 && d.exponent ≠ -1074 then 1 else 2
  (centre - below, centre, centre + 2)

/-- The multiple of `10 ^ k` that is nearest to a double among those that read
    back as it. -/
def onGrid (d : Double) (k : Int) : Option Nat :=
  let (lo, centre, hi) := d.interval
  let e := d.exponent - 2
  let up := Nat.pow 2 e.toNat * Nat.pow 10 (-k).toNat
  let unit := Nat.pow 2 (-e).toNat * Nat.pow 10 k.toNat
  let even := d.significand % 2 = 0
  let inside := fun c : Nat =>
    if even then lo * up ≤ c * unit && c * unit ≤ hi * up
    else lo * up < c * unit && c * unit < hi * up
  let c := centre * up / unit
  let below := 0 < c && inside c
  let above := inside (c + 1)
  if below && above then
    let gap := centre * up % unit
    if 2 * gap < unit || (2 * gap = unit && c % 2 = 0) then some c else some (c + 1)
  else if below then some c
  else if above then some (c + 1)
  else none

/-- The first grid from `10 ^ k` downwards that holds a number which reads back
    as the double. -/
def search (d : Double) : Nat → Int → Nat × Int
  | 0, k => (0, k)
  | fuel + 1, k =>
    match d.onGrid k with
    | some c => (c, k)
    | none => search d fuel (k - 1)

/-- The fewest digits that read back as a double, with their power of ten.
    Every double lies on a grid between `10 ^ 308` and `10 ^ -324`. -/
def shortest (d : Double) : Nat × Int :=
  if d.significand = 0 then (0, 0) else d.search 633 308

/-- The decimal form of a double. -/
def toDecimal (negative : Bool) (d : Double) : Decimal :=
  let (digits, exponent) := d.shortest
  Decimal.reduce negative digits exponent

end Double

/-- The decimal form of the double nearest to `± digits · 10 ^ exponent`,
    unless it is too large. -/
def Decimal.ofDigits? (negative : Bool) (digits : Nat) (exponent : Int) : Option Decimal :=
  (Double.ofDigits digits exponent).map (Double.toDecimal negative)

end Concord
