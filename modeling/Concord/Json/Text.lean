/-
  JSON texts.

  * `compact` writes a value without any space.
  * `pretty` writes one item or member a line, two spaces a level; an empty
    array or object stays on its line.
  * Of the characters of a string only the quote, the backslash and the
    control characters below U+0020 are escaped (`escape`).
-/
import Concord.Json.Basic

namespace Concord.Json

/-! ## Strings -/

/-- The hexadecimal digit of a number below sixteen, in lower case. -/
def hexDigit (n : Nat) : Char := "0123456789abcdef".toList.getD n '0'

/-- The written form of one character of a string. -/
def escape (c : Char) : List Char :=
  match c with
  | '"' => ['\\', '"']
  | '\\' => ['\\', '\\']
  | '\n' => ['\\', 'n']
  | '\r' => ['\\', 'r']
  | '\t' => ['\\', 't']
  | c =>
    if c.toNat = 0x8 then ['\\', 'b']
    else if c.toNat = 0xC then ['\\', 'f']
    else if c.toNat < 0x20 then
      ['\\', 'u', '0', '0', hexDigit (c.toNat / 16), hexDigit (c.toNat % 16)]
    else [c]

/-- The written form of a string, between quotes. -/
def quoted (s : String) : List Char := '"' :: s.toList.flatMap escape ++ ['"']

/-- The digits of a whole number, after a minus sign if it is negative. -/
def wholeNumber (n : Int) : List Char :=
  if n < 0 then '-' :: Nat.toDigits 10 n.natAbs else Nat.toDigits 10 n.natAbs

/-! ## Compact form -/

mutual

/-- The characters of the compact form. -/
def compactChars : Json → List Char
  | null => "null".toList
  | bool b => if b then "true".toList else "false".toList
  | int n => wholeNumber n
  | float d => d.json.toList
  | str s => quoted s
  | arr items => '[' :: compactItems items ++ [']']
  | obj members => '{' :: compactMembers members ++ ['}']

/-- Items with a comma between them. -/
def compactItems : List Json → List Char
  | [] => []
  | [j] => compactChars j
  | j :: r => compactChars j ++ ',' :: compactItems r

/-- Members with a comma between them. -/
def compactMembers : List (String × Json) → List Char
  | [] => []
  | [(k, j)] => quoted k ++ ':' :: compactChars j
  | (k, j) :: r => quoted k ++ ':' :: compactChars j ++ ',' :: compactMembers r

end

/-- A value written without any space. -/
def compact (j : Json) : String := String.ofList j.compactChars

/-! ## Pretty form -/

/-- A line break and the indentation of a level. -/
def newline (level : Nat) : List Char := '\n' :: List.replicate (2 * level) ' '

mutual

/-- The characters of the pretty form on a level. -/
def prettyChars (level : Nat) : Json → List Char
  | arr [] => ['[', ']']
  | arr items => '[' :: prettyItems (level + 1) items ++ newline level ++ [']']
  | obj [] => ['{', '}']
  | obj members => '{' :: prettyMembers (level + 1) members ++ newline level ++ ['}']
  | j => compactChars j

/-- Items, each on a line of its own. -/
def prettyItems (level : Nat) : List Json → List Char
  | [] => []
  | [j] => newline level ++ prettyChars level j
  | j :: r => newline level ++ prettyChars level j ++ ',' :: prettyItems level r

/-- Members, each on a line of its own. -/
def prettyMembers (level : Nat) : List (String × Json) → List Char
  | [] => []
  | [(k, j)] => newline level ++ quoted k ++ ':' :: ' ' :: prettyChars level j
  | (k, j) :: r =>
    newline level ++ quoted k ++ ':' :: ' ' :: prettyChars level j ++ ',' :: prettyMembers level r

end

/-- A value written one item or member a line. -/
def pretty (j : Json) : String := String.ofList (j.prettyChars 0)

end Concord.Json
