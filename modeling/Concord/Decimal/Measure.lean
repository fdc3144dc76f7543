/-
  Measures: doubles with the infinities and the value that is no number.

  * `Measure.text`: all digits in their places, `inf`, `-inf` or `NaN`.
  * `Measure.read?`: digits with an optional point and power of ten, or a word
    for an infinity or for no number; what is too large is infinite.
-/
import Concord.Decimal.Double

namespace Concord

/-- A double of any kind. -/
inductive Measure where
  | finite (d : Decimal)
  | infinite (negative : Bool)
  | notANumber
  deriving DecidableEq

namespace Measure

instance : Inhabited Measure := ⟨finite (Decimal.zero false)⟩

/-- The text of a measure. -/
def text : Measure → String
  | finite d => d.plain
  | infinite negative => if negative then "-inf" else "inf"
  | notANumber => "NaN"

/-- The measure nearest to `± digits · 10 ^ exponent`. -/
def ofDigits (negative : Bool) (digits : Nat) (exponent : Int) : Measure :=
  match Decimal.ofDigits? negative digits exponent with
  | some d => finite d
  | none => infinite negative

/-- The measure nearest to a whole number. -/
def ofInt (n : Int) : Measure := ofDigits (n < 0) n.natAbs 0

/-- The number that digits stand for. -/
def digitsValue (ds : List Char) : Nat :=
  ds.foldl (fun n c => n * 10 + (c.toNat - '0'.toNat)) 0

/-- The power of ten after the digits of a number, with the sign `e`. -/
def power? : List Char → Option Int
  | [] => some 0
  | c :: r =>
    if c = 'e' || c = 'E' then
      let (negative, ds) :=
        match r with
        | '-' :: ds => (true, ds)
        | '+' :: ds => (false, ds)
        | ds => (false, ds)
      if ds.isEmpty || !ds.all Char.isDigit then none
      else some (if negative then -(digitsValue ds) else digitsValue ds)
    else none

/-- The measure of digits with an optional point and power of ten. -/
def number? (negative : Bool) (cs : List Char) : Option Measure :=
  let whole := cs.takeWhile Char.isDigit
  let rest := cs.dropWhile Char.isDigit
  let (fraction, rest) :=
    match rest with
    | '.' :: r => (r.takeWhile Char.isDigit, r.dropWhile Char.isDigit)
    | r => ([], r)
  if whole.isEmpty && fraction.isEmpty then none
  else
    (power? rest).map fun e =>
      ofDigits negative (digitsValue (whole ++ fraction)) (e - fraction.length)

/-- The measure of a text. -/
def read? (s : String) : Option Measure :=
  let (negative, cs) :=
    match s.toList with
    | '-' :: r => (true, r)
    | '+' :: r => (false, r)
    | r => (false, r)
  let word := String.ofList (cs.map Char.toLower)
  if word = "inf" || word = "infinity" then some (infinite negative)
  else if word = "nan" then some notANumber
  else number? negative cs

end Measure

end Concord
