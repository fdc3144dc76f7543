/-
  The characters of a YAML text with their places.

  Line breaks of all forms are one glyph each and start a new line; those of
  ASCII and U+0085 count as the line feed, U+2028 and U+2029 stand for
  themselves.  A last glyph marks the end of the text.

  * `glyphs?`: the glyphs of a text, unless it holds a character that no YAML
    text may hold.
-/

namespace Concord.Yaml

/-- A place in a text; all counts start at zero. -/
structure Mark where
  /-- The bytes before the place. -/
  index : Nat
  line : Nat
  column : Nat
  deriving DecidableEq, Repr

namespace Mark

/-- The start of a text. -/
def start : Mark := ⟨0, 0, 0⟩

/-- The place after a character on the same line. -/
def next (m : Mark) (c : Char) : Mark := ⟨m.index + c.utf8Size, m.line, m.column + 1⟩

/-- The start of the next line, after a line break of so many bytes. -/
def nextLine (m : Mark) (bytes : Nat) : Mark := ⟨m.index + bytes, m.line + 1, 0⟩

/-- A place in words, counted from one. -/
def text (m : Mark) : String := s!"line {m.line + 1} column {m.column + 1}"

end Mark

/-- A character at its place. -/
structure Glyph where
  char : Char
  mark : Mark
  deriving DecidableEq, Repr

/-- The character of the glyph that ends a text; no text holds it. -/
def endChar : Char := '\x00'

/-! ## Classes of characters -/

/-- A space or a tab. -/
def isBlank (c : Char) : Bool := c == ' ' || c == '\t'

/-- A line break. -/
def isBreak (c : Char) : Bool := c == '\n' || c.toNat == 0x2028 || c.toNat == 0x2029

/-- The end of a line or of the text. -/
def isLineEnd (c : Char) : Bool := isBreak c || c == endChar

/-- What may follow an indicator: a blank, or the end of a line or of the
    text. -/
def isGap (c : Char) : Bool := isBlank c || isLineEnd c

/-- A character of a name. -/
def isWord (c : Char) : Bool := c.isAlphanum || c == '_' || c == '-'

/-- A character that a text may hold. -/
def isAllowed (c : Char) : Bool :=
  let n := c.toNat
  n == 0x9 || n == 0xA || n == 0xD || (0x20 ≤ n && n ≤ 0x7E) || n == 0x85 ||
    (0xA0 ≤ n && n ≤ 0xFFFD) || 0x10000 ≤ n

/-- The character that a line may start with to tell the encoding. -/
def byteOrderMark : Char := '\uFEFF'

/-! ## Glyphs -/

/-- The glyphs of characters from a place on. -/
def glyphsFrom (m : Mark) : List Char → List Glyph
  | [] => [⟨endChar, m⟩]
  | '\r' :: '\n' :: r => ⟨'\n', m⟩ :: glyphsFrom (m.nextLine 2) r
  | c :: r =>
    if c == '\n' || c == '\r' || c.toNat == 0x85 then
      ⟨'\n', m⟩ :: glyphsFrom (m.nextLine c.utf8Size) r
    else if isBreak c then ⟨c, m⟩ :: glyphsFrom (m.nextLine c.utf8Size) r
    else ⟨c, m⟩ :: glyphsFrom (m.next c) r

/-- The glyphs of a text. -/
def glyphs? (s : String) : Option (List Glyph) :=
  let cs := s.toList
  if cs.all isAllowed then some (glyphsFrom Mark.start cs) else none

/-- The `n`-th character from here on. -/
def peek (gs : List Glyph) (n : Nat) : Char :=
  match gs[n]? with
  | some g => g.char
  | none => endChar

/-- The place of the first glyph. -/
def place : List Glyph → Mark
  | g :: _ => g.mark
  | [] => Mark.start

/-- Whether a line starts here with three equal characters and a gap: the start
    or the end of a document. -/
def isDocumentMarker (gs : List Glyph) : Bool :=
  (place gs).column == 0 &&
    ((peek gs 0 == '-' && peek gs 1 == '-' && peek gs 2 == '-') ||
      (peek gs 0 == '.' && peek gs 1 == '.' && peek gs 2 == '.')) &&
    isGap (peek gs 3)

/-- Whether the next glyphs are blanks, perhaps a comment, and the end of the
    line; what comes after them. -/
def restOfLine? (gs : List Glyph) : Option (List Glyph) :=
  let gs := gs.dropWhile fun g => isBlank g.char
  let gs := if peek gs 0 == '#' then gs.dropWhile fun g => !isLineEnd g.char else gs
  match gs with
  | g :: r => if isBreak g.char then some r else if g.char == endChar then some (g :: r) else none
  | [] => some []

end Concord.Yaml
