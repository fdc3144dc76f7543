/-
  Reading JSON texts.

  Every reader takes the characters that are left and gives a value with the
  characters after it, or nothing where the text is malformed.

  * `number`: a number without point and exponent that fits in 64 bits is a
    whole number, any other a decimal (`scaledDecimal`).  Minus zero is a
    decimal.
  * `value`: a value whose arrays and objects nest at most as deep as allowed.
  * `read?`: a whole text that holds one value.
-/
import Concord.Decimal.Double
import Concord.Json.Basic

namespace Concord.Json

/-! ## Numbers -/

/-- The largest significand, `2 ^ 64 - 1`. -/
def significandLimit : Nat := 18446744073709551615

/-- Appends digits to a significand while it stays within 64 bits; the digits
    from the first that does not fit are left. -/
def absorb (significand : Nat) : List Char → Nat × List Char
  | [] => (significand, [])
  | c :: r =>
    let next := significand * 10 + (c.toNat - '0'.toNat)
    if significandLimit < next then (significand, c :: r) else absorb next r

/-- The product of two doubles, rounded. -/
def product (a b : Double) : Option Double :=
  Double.nearest (a.ratio.1 * b.ratio.1) (a.ratio.2 * b.ratio.2)

/-- The quotient of two doubles, rounded. -/
def quotient (a b : Double) : Option Double :=
  Double.nearest (a.ratio.1 * b.ratio.2) (a.ratio.2 * b.ratio.1)

/-- The double nearest to a power of ten. -/
def powerOfTen (n : Nat) : Option Double := Double.nearest (Nat.pow 10 n) 1

/-- Divides by `10 ^ n`, by `10 ^ 308` at a time; after three such steps every
    significand has become zero. -/
def divideByPower : Nat → Double → Nat → Option Double
  | 0, d, _ => some ⟨0, d.exponent⟩
  | steps + 1, d, n =>
    if n ≤ 308 then (powerOfTen n).bind (quotient d)
    else (powerOfTen 308).bind fun p => (quotient d p).bind fun d => divideByPower steps d (n - 308)

/-- The decimal of `significand · 10 ^ exponent`, computed in double precision:
    the significand is rounded first, then its product with, or its quotient
    by, the power of ten.  There is none beyond the largest double. -/
def scaledDecimal (negative : Bool) (significand : Nat) (exponent : Int) : Option Json := do
  let s ← Double.nearest significand 1
  let d ←
    if 0 ≤ exponent then
      if exponent ≤ 308 then (powerOfTen exponent.toNat).bind (product s)
      else if significand = 0 then some s else none
    else divideByPower 3 s exponent.natAbs
  some (float (d.toDecimal negative))

/-- The largest exponent that is read as a number, `2 ^ 31 - 1`. -/
def exponentLimit : Nat := 2147483647

/-- The exponent after `e` and its effect on a significand. -/
def exponentPart (negative : Bool) (significand : Nat) (exponent : Int) (cs : List Char) :
    Option (Json × List Char) := do
  let (down, cs) :=
    match cs with
    | '+' :: r => (false, r)
    | '-' :: r => (true, r)
    | _ => (false, cs)
  let digits := cs.takeWhile Char.isDigit
  let rest := cs.dropWhile Char.isDigit
  if digits.isEmpty then none
  let e := digits.foldl (fun n c => n * 10 + (c.toNat - '0'.toNat)) 0
  if exponentLimit < e then
    if significand = 0 || down then some (float (Decimal.zero negative), rest) else none
  else
    let total := if down then exponent - e else exponent + e
    (scaledDecimal negative significand total).map (·, rest)

/-- A number after its sign. -/
def unsignedNumber (negative : Bool) (cs : List Char) : Option (Json × List Char) :=
  let whole := cs.takeWhile Char.isDigit
  let rest := cs.dropWhile Char.isDigit
  if whole.isEmpty || (whole.head? = some '0' && 1 < whole.length) then none else
  let (significand, spare) := absorb 0 whole
  match rest with
  | '.' :: r =>
    let digits := r.takeWhile Char.isDigit
    let rest := r.dropWhile Char.isDigit
    if digits.isEmpty then none else
    let (significand, dropped) := absorb significand digits
    let exponent : Int := spare.length - (digits.length - dropped.length : Nat)
    match rest with
    | 'e' :: r | 'E' :: r => exponentPart negative significand exponent r
    | _ => (scaledDecimal negative significand exponent).map (·, rest)
  | 'e' :: r | 'E' :: r => exponentPart negative significand spare.length r
  | _ =>
    if !spare.isEmpty then (scaledDecimal negative significand spare.length).map (·, rest)
    else if !negative then some (int significand, rest)
    else if significand ≠ 0 && significand ≤ 9223372036854775808 then
      some (int (-significand), rest)
    else (scaledDecimal true significand 0).map (·, rest)

/-- A number with its sign. -/
def number : List Char → Option (Json × List Char)
  | '-' :: r => unsignedNumber true r
  | cs => unsignedNumber false cs

/-! ## Strings -/

/-- The value of a hexadecimal digit. -/
def hexValue (c : Char) : Option Nat :=
  if c.isDigit then some (c.toNat - '0'.toNat)
  else if 'a' ≤ c ∧ c ≤ 'f' then some (c.toNat - 'a'.toNat + 10)
  else if 'A' ≤ c ∧ c ≤ 'F' then some (c.toNat - 'A'.toNat + 10)
  else none

/-- The number of four hexadecimal digits. -/
def hex4 (a b c d : Char) : Option Nat := do
  let a ← hexValue a
  let b ← hexValue b
  let c ← hexValue c
  let d ← hexValue d
  some (((a * 16 + b) * 16 + c) * 16 + d)

/-- The character of a code point, unless it is a surrogate or too large. -/
def charOf? (n : Nat) : Option Char :=
  if h : n.isValidChar then some (Char.ofNatAux n h) else none

/-- The characters of a string up to its closing quote, with those read before
    in reverse. -/
def stringChars (acc : List Char) : List Char → Option (String × List Char)
  | '"' :: r => some (String.ofList acc.reverse, r)
  | '\\' :: 'u' :: a :: b :: c :: d :: '\\' :: 'u' :: e :: f :: g :: h :: r =>
    (hex4 a b c d).bind fun high =>
      if 0xD800 ≤ high && high ≤ 0xDBFF then
        (hex4 e f g h).bind fun low =>
          if 0xDC00 ≤ low && low ≤ 0xDFFF then
            (charOf? (0x10000 + (high - 0xD800) * 0x400 + (low - 0xDC00))).bind fun c =>
              stringChars (c :: acc) r
          else none
      else
        (charOf? high).bind fun c => stringChars (c :: acc) ('\\' :: 'u' :: e :: f :: g :: h :: r)
  | '\\' :: 'u' :: a :: b :: c :: d :: r =>
    (hex4 a b c d).bind fun n => (charOf? n).bind fun c => stringChars (c :: acc) r
  | '\\' :: c :: r =>
    match c with
    | '"' | '\\' | '/' => stringChars (c :: acc) r
    | 'b' => stringChars ('\x08' :: acc) r
    | 'f' => stringChars ('\x0c' :: acc) r
    | 'n' => stringChars ('\n' :: acc) r
    | 'r' => stringChars ('\r' :: acc) r
    | 't' => stringChars ('\t' :: acc) r
    | _ => none
  | c :: r => if c.toNat < 0x20 then none else stringChars (c :: acc) r
  | [] => none
termination_by cs => cs.length

/-! ## Values -/

/-- Drops the white space between tokens. -/
def skipSpace (cs : List Char) : List Char :=
  cs.dropWhile fun c => c == ' ' || c == '\n' || c == '\r' || c == '\t'

/-- A comma-separated list of at least one element up to a closing character;
    the fuel bounds the number of elements. -/
def sequence {α : Type} (close : Char) (element : List Char → Option (α × List Char)) :
    Nat → List Char → Option (List α × List Char)
  | 0, _ => none
  | fuel + 1, cs => do
    let (x, cs) ← element cs
    match skipSpace cs with
    | ',' :: r =>
      let (xs, rest) ← sequence close element fuel r
      some (x :: xs, rest)
    | c :: r => if c = close then some ([x], r) else none
    | [] => none

/-- A key, a colon and a value. -/
def member (value : List Char → Option (Json × List Char)) (cs : List Char) :
    Option ((String × Json) × List Char) :=
  match skipSpace cs with
  | '"' :: r => do
    let (k, cs) ← stringChars [] r
    match skipSpace cs with
    | ':' :: r =>
      let (v, rest) ← value r
      some ((k, v), rest)
    | _ => none
  | _ => none

/-- A value whose arrays and objects nest at most `depth` deep. -/
def value : Nat → List Char → Option (Json × List Char)
  | depth, cs =>
    match skipSpace cs with
    | 'n' :: 'u' :: 'l' :: 'l' :: r => some (null, r)
    | 't' :: 'r' :: 'u' :: 'e' :: r => some (bool true, r)
    | 'f' :: 'a' :: 'l' :: 's' :: 'e' :: r => some (bool false, r)
    | '"' :: r => (stringChars [] r).map fun (s, rest) => (str s, rest)
    | '[' :: r =>
      match depth with
      | 0 => none
      | depth + 1 =>
        match skipSpace r with
        | ']' :: rest => some (arr [], rest)
        | cs => (sequence ']' (value depth) cs.length cs).map fun (xs, rest) => (arr xs, rest)
    | '{' :: r =>
      match depth with
      | 0 => none
      | depth + 1 =>
        match skipSpace r with
        | '}' :: rest => some (obj [], rest)
        | cs =>
          (sequence '}' (member (value depth)) cs.length cs).map fun (ms, rest) =>
            (ofMembers ms, rest)
    | cs => number cs
termination_by depth => depth

/-- The deepest nesting of arrays and objects in a text. -/
def depthLimit : Nat := 127

/-- The value of a text that holds one value and white space around it. -/
def read? (s : String) : Option Json :=
  match value depthLimit s.toList with
  | some (j, rest) => if (skipSpace rest).isEmpty then some j else none
  | none => none

end Concord.Json
