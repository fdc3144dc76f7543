/-
  Blank characters and trimming.

  * `isBlank`: the characters with the Unicode property White_Space.
  * `stripStart`, `stripEnd`, `strip`: a text without the characters of a class
    at its start, at its end, at both ends.
  * `trim` strips blanks; `isBlankText` holds of a text made of blanks only.
  * `toList_strip` relates the text operation to the one on characters, on
    which `stripList_eq_nil_iff` is stated.
-/

namespace Concord.Text

/-! ## Blank characters -/

/-- A character with the Unicode property White_Space. -/
def isBlank (c : Char) : Bool :=
  let n := c.toNat
  (0x9 ≤ n && n ≤ 0xD) || n == 0x20 || n == 0x85 || n == 0xA0 || n == 0x1680 ||
    (0x2000 ≤ n && n ≤ 0x200A) || n == 0x2028 || n == 0x2029 || n == 0x202F ||
    n == 0x205F || n == 0x3000

/-! ## Stripping -/

/-- The characters of a list before its trailing run of `p`. -/
def stripListEnd (p : Char → Bool) (cs : List Char) : List Char :=
  (cs.reverse.dropWhile p).reverse

/-- The characters of a list between its leading and its trailing run of `p`. -/
def stripList (p : Char → Bool) (cs : List Char) : List Char :=
  stripListEnd p (cs.dropWhile p)

/-- A text without its leading run of `p`. -/
def stripStart (p : Char → Bool) (s : String) : String :=
  String.ofList (s.toList.dropWhile p)

/-- A text without its trailing run of `p`. -/
def stripEnd (p : Char → Bool) (s : String) : String :=
  String.ofList (stripListEnd p s.toList)

/-- A text without its leading and its trailing run of `p`. -/
def strip (p : Char → Bool) (s : String) : String :=
  String.ofList (stripList p s.toList)

/-- A text without blanks at its ends. -/
def trim (s : String) : String := strip isBlank s

/-- A text made of blanks only. -/
def isBlankText (s : String) : Bool := s.toList.all isBlank

@[simp] theorem toList_strip (p : Char → Bool) (s : String) :
    (strip p s).toList = stripList p s.toList := by
  simp [strip]

theorem dropWhile_eq_nil_iff {p : Char → Bool} {cs : List Char} :
    cs.dropWhile p = [] ↔ ∀ c ∈ cs, p c = true := by
  induction cs with
  | nil => simp
  | cons c r ih => by_cases h : p c = true <;> simp [List.dropWhile, h, ih]

theorem stripListEnd_eq_nil_iff {p : Char → Bool} {cs : List Char} :
    stripListEnd p cs = [] ↔ ∀ c ∈ cs, p c = true := by
  rw [stripListEnd, List.reverse_eq_nil_iff, dropWhile_eq_nil_iff]
  simp

/-- Nothing is left exactly when every character is of the class. -/
theorem stripList_eq_nil_iff {p : Char → Bool} {cs : List Char} :
    stripList p cs = [] ↔ ∀ c ∈ cs, p c = true := by
  rw [stripList, stripListEnd_eq_nil_iff]
  induction cs with
  | nil => simp
  | cons c r ih => by_cases h : p c = true <;> simp [List.dropWhile, h, ih]

end Concord.Text
