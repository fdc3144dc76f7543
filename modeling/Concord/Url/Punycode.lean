/-
  Labels of host names beyond ASCII, written in ASCII.

  The ASCII characters of a label come first.  The others follow in increasing
  order, each as the distance to the one before it: a number in mixed base 36,
  least digit first, whose thresholds adapt to the size of earlier distances.

  * `encodeLabel`: a label with the mark `xn--` if it is not ASCII.
  * `decode?`: the characters that stand behind such a mark.
-/

namespace Concord.Url.Punycode

/-- The digit of a number below 36. -/
def digit (n : Nat) : Char := "abcdefghijklmnopqrstuvwxyz0123456789".toList.getD n 'a'

/-- The threshold of the digit at a place. -/
def threshold (place bias : Nat) : Nat := max 1 (min 26 (place - bias))

theorem threshold_pos (place bias : Nat) : 1 ≤ threshold place bias := by
  simp only [threshold]; omega

/-- A distance as digits, the last of which is below its threshold. -/
def digits (bias place n : Nat) : List Char :=
  let t := threshold place bias
  if n < t then [digit n]
  else digit (t + (n - t) % (36 - t)) :: digits bias (place + 36) ((n - t) / (36 - t))
termination_by n
decreasing_by
  have h₁ := threshold_pos place bias
  exact Nat.lt_of_le_of_lt (Nat.div_le_self _ _) (by omega)

/-- Divides a distance until it is small, and counts the bias on the way. -/
def settle (distance bias : Nat) : Nat :=
  if 455 < distance then settle (distance / 35) (bias + 36)
  else bias + 36 * distance / (distance + 38)
termination_by distance

/-- The bias after a distance, when some characters have been written. -/
def adapt (distance written : Nat) (first : Bool) : Nat :=
  let d := if first then distance / 700 else distance / 2
  settle (d + d / written) 0

/-- How far the encoding of a label has come. -/
structure Progress where
  output : List Char
  distance : Nat
  bias : Nat
  /-- How many characters have been written. -/
  written : Nat

/-- The progress after looking at one character of the label, when characters
    with the code `code` are written and `basic` ones were there before. -/
def visit (basic code : Nat) (p : Progress) (c : Char) : Progress :=
  if c.toNat < code then { p with distance := p.distance + 1 }
  else if c.toNat = code then
    { output := p.output ++ digits p.bias 36 p.distance
      distance := 0
      bias := adapt p.distance (p.written + 1) (p.written = basic)
      written := p.written + 1 }
  else p

/-- The progress after writing the characters with each of some codes, which
    increase; `next` is the least code that has not been looked at. -/
def writeCodes (label : List Char) (basic : Nat) (next : Nat) :
    Progress → List Nat → Progress
  | p, [] => p
  | p, code :: r =>
    let p := { p with distance := p.distance + (code - next) * (p.written + 1) }
    let p := label.foldl (visit basic code) p
    writeCodes label basic (code + 1) { p with distance := p.distance + 1 } r

/-- The codes of the characters beyond ASCII, each once, increasing. -/
def codes (label : List Char) : List Nat :=
  (((label.map Char.toNat).filter fun n => 0x80 ≤ n).mergeSort fun a b => a ≤ b).eraseDups

/-- The mark of a label that is written in this way. -/
def mark : List Char := "xn--".toList

/-- A label in ASCII. -/
def encodeLabel (label : List Char) : List Char :=
  if label.all fun c => c.toNat < 0x80 then label
  else
    let basic := label.filter fun c => c.toNat < 0x80
    let p := writeCodes label basic.length 0x80 ⟨[], 0, 72, basic.length⟩ (codes label)
    mark ++ basic ++ (if basic.isEmpty then [] else ['-']) ++ p.output

/-! ## Decoding -/

/-- The number of a digit. -/
def digit? (c : Char) : Option Nat :=
  if c.isLower then some (c.toNat - 'a'.toNat)
  else if c.isDigit then some (c.toNat - '0'.toNat + 26)
  else none

/-- The largest number that is kept while a distance is read. -/
def limit : Nat := 4294967295

/-- What a distance adds up to with a sum, when its digits count from a weight
    on, and the characters behind its digits. -/
def distance? (bias place weight sum : Nat) : List Char → Option (Nat × List Char)
  | [] => none
  | c :: r => do
    let d ← digit? c
    let t := threshold place bias
    let sum := sum + d * weight
    if limit < sum then none
    else if d < t then return (sum, r)
    else if limit < weight * (36 - t) then none
    else distance? bias (place + 36) (weight * (36 - t)) sum r

theorem distance?_length {bias place weight sum total : Nat} {cs rest : List Char}
    (h : distance? bias place weight sum cs = some (total, rest)) : rest.length < cs.length := by
  induction cs generalizing place weight sum with
  | nil => simp [distance?] at h
  | cons c r ih =>
    simp only [distance?, Option.bind_eq_bind, Option.bind_eq_some_iff] at h
    obtain ⟨d, _, h⟩ := h
    split at h
    · simp at h
    · split at h
      · simp_all
      · split at h
        · simp at h
        · exact Nat.lt_succ_of_lt (ih h)

/-- A character with a code, if there is one. -/
def character? (code : Nat) : Option Char :=
  if code.isValidChar then some (Char.ofNat code) else none

/-- Characters with those of further distances among them; `code` and `place`
    say what the last one was and where the next may stand. -/
def insertAll (bias code place : Nat) (written : List Char) : List Char → Option (List Char)
  | [] => some written
  | d :: r =>
    match _read : distance? bias 36 1 place (d :: r) with
    | none => none
    | some (total, rest) =>
      let length := written.length + 1
      let code := code + total / length
      match character? code with
      | none => none
      | some c =>
        insertAll (adapt (total - place) length (place = 0)) code (total % length + 1)
          (written.insertIdx (total % length) c) rest
termination_by cs => cs.length
decreasing_by exact distance?_length _read

/-- The characters that a label has behind its mark; the last hyphen ends the
    ASCII characters. -/
def decode? (cs : List Char) : Option (List Char) :=
  let coded := (cs.reverse.takeWhile (· != '-')).reverse
  let basic := cs.take (cs.length - coded.length - 1)
  if basic.isEmpty then insertAll 72 0x80 0 [] cs else insertAll 72 0x80 0 basic coded

end Concord.Url.Punycode
