/-
  Points in time.

  A `Timestamp` counts seconds and nanoseconds from the start of 1970 in UTC.
  A leap second belongs to the second before it, whose nanoseconds then go on.

  * `dayNumber` and `civil` pass between dates and days since 1970.
  * `Timestamp.text`: date and time of day in UTC, with as many groups of three
    fraction digits as are needed.
  * `Timestamp.read?`: the same form, with any number of fraction digits and
    any offset from UTC.
-/

namespace Concord

/-! ## Dates -/

/-- The days from 1970-01-01 to a date. -/
def dayNumber (year : Int) (month day : Nat) : Int :=
  let y := if month ≤ 2 then year - 1 else year
  let era := y / 400
  let yearOfEra := y - era * 400
  let monthFromMarch : Int := (month + 9) % 12
  let dayOfYear := (153 * monthFromMarch + 2) / 5 + day - 1
  let dayOfEra := yearOfEra * 365 + yearOfEra / 4 - yearOfEra / 100 + dayOfYear
  era * 146097 + dayOfEra - 719468

/-- The date a number of days after 1970-01-01. -/
def civil (days : Int) : Int × Nat × Nat :=
  let z := days + 719468
  let era := z / 146097
  let dayOfEra := z - era * 146097
  let yearOfEra := (dayOfEra - dayOfEra / 1460 + dayOfEra / 36524 - dayOfEra / 146096) / 365
  let dayOfYear := dayOfEra - (365 * yearOfEra + yearOfEra / 4 - yearOfEra / 100)
  let monthFromMarch := (5 * dayOfYear + 2) / 153
  let day := dayOfYear - (153 * monthFromMarch + 2) / 5 + 1
  let month := if monthFromMarch < 10 then monthFromMarch + 3 else monthFromMarch - 9
  let year := yearOfEra + era * 400 + if month ≤ 2 then 1 else 0
  (year, month.toNat, day.toNat)

/-- How many days a month has. -/
def monthLength (year : Int) (month : Nat) : Nat :=
  if month = 2 then
    if year % 4 = 0 && (year % 100 ≠ 0 || year % 400 = 0) then 29 else 28
  else if month = 4 || month = 6 || month = 9 || month = 11 then 30
  else 31

/-! ## Texts -/

/-- A point in time. -/
structure Timestamp where
  /-- Seconds since the start of 1970. -/
  seconds : Int
  /-- Nanoseconds since the last full second; from 1,000,000,000 on they lie in
      a leap second. -/
  nanoseconds : Nat
  deriving DecidableEq, Repr

namespace Timestamp

/-- The nanoseconds of a second, after which a leap second starts. -/
def leapStart : Nat := 1000000000

/-- The digits of a number, with zeros before them up to a length. -/
def padded (n : Nat) (length : Nat) : List Char :=
  let ds := Nat.toDigits 10 n
  List.replicate (length - ds.length) '0' ++ ds

/-- The fraction of a second, in groups of three digits. -/
def fractionText (nanoseconds : Nat) : List Char :=
  if nanoseconds = 0 then []
  else if nanoseconds % 1000000 = 0 then '.' :: padded (nanoseconds / 1000000) 3
  else if nanoseconds % 1000 = 0 then '.' :: padded (nanoseconds / 1000) 6
  else '.' :: padded nanoseconds 9

/-- A year, with its sign where it has not four digits. -/
def yearText (year : Int) : List Char :=
  if 0 ≤ year && year ≤ 9999 then padded year.toNat 4
  else (if year < 0 then '-' else '+') :: padded year.natAbs 4

/-- Date and time of day in UTC. -/
def text (t : Timestamp) : String :=
  let (year, month, day) := civil (t.seconds / 86400)
  let s := (t.seconds % 86400).toNat
  let second := s % 60 + t.nanoseconds / leapStart
  String.ofList
    (yearText year ++ '-' :: padded month 2 ++ '-' :: padded day 2 ++
      'T' :: padded (s / 3600) 2 ++ ':' :: padded (s / 60 % 60) 2 ++ ':' :: padded second 2 ++
      fractionText (t.nanoseconds % leapStart) ++ ['Z'])

/-- A number of exactly so many digits, and the characters after it. -/
def digits? : Nat → List Char → Option (Nat × List Char)
  | 0, cs => some (0, cs)
  | n + 1, cs =>
    match cs with
    | [] => none
    | c :: r =>
      if c.isDigit then
        (digits? n r).map fun (v, rest) => ((c.toNat - '0'.toNat) * Nat.pow 10 n + v, rest)
      else none

/-- A fixed character, and the characters after it. -/
def after? (allowed : List Char) : List Char → Option (List Char)
  | c :: r => if allowed.contains c then some r else none
  | [] => none

/-- The nanoseconds of a fraction; digits beyond the ninth count for nothing. -/
def fraction? : List Char → Option (Nat × List Char)
  | '.' :: r =>
    let ds := r.takeWhile Char.isDigit
    if ds.isEmpty then none
    else
      let nine := (ds ++ List.replicate 9 '0').take 9
      (digits? 9 nine).map fun (v, _) => (v, r.dropWhile Char.isDigit)
  | cs => some (0, cs)

/-- The seconds of an offset from UTC. -/
def offset? : List Char → Option Int
  | ['Z'] | ['z'] => some 0
  | sign :: r => do
    let (h, r) ← digits? 2 r
    let r ← after? [':'] r
    let (m, r) ← digits? 2 r
    if !r.isEmpty || 23 < h || 59 < m then none
    else if sign = '+' then some (h * 3600 + m * 60 : Nat)
    else if sign = '-' || sign = '−' then some (-(h * 3600 + m * 60 : Nat))
    else none
  | [] => none

/-- The point in time of a text with date, time of day and offset. -/
def read? (s : String) : Option Timestamp := do
  let (year, r) ← digits? 4 s.toList
  let r ← after? ['-'] r
  let (month, r) ← digits? 2 r
  let r ← after? ['-'] r
  let (day, r) ← digits? 2 r
  let r ← after? ['T', 't', ' '] r
  let (hour, r) ← digits? 2 r
  let r ← after? [':'] r
  let (minute, r) ← digits? 2 r
  let r ← after? [':'] r
  let (second, r) ← digits? 2 r
  let (nanoseconds, r) ← fraction? r
  let offset ← offset? r
  if month < 1 || 12 < month || day < 1 || monthLength year month < day || 23 < hour ||
    59 < minute || 60 < second then none
  else
    let leap := if second = 60 then 1 else 0
    let ofDay := hour * 3600 + minute * 60 + second - leap
    some ⟨dayNumber year month day * 86400 + ofDay - offset, nanoseconds + leap * leapStart⟩

end Timestamp

end Concord
