/-
  Display width.

  A text takes the columns of its characters, but where several of them are
  drawn in one piece: a line break of two characters, the parts of a picture,
  and the ligatures of some scripts.  What a character adds depends on what
  follows it, so a text is read from its end.

  * `step`: the columns that a character adds before given ones.
  * `width`: the columns of a text.
-/
import Concord.Text.Columns
import Concord.Text.Emoji
import Concord.Text.Joining

namespace Concord.Text

/-! ## What follows a character -/

/-- The last letter of a ligature, or its last two. -/
inductive Ligature where
  /-- An Arabic Alef, which takes a Lam before it. -/
  | alef
  /-- A Hebrew Lamed, which takes an Alef before a joiner. -/
  | lamed
  /-- A Buginese Ya, which takes a vowel sign before a joiner. -/
  | ya
  /-- A Buginese vowel sign, a joiner and Ya, which take a letter before them. -/
  | vowelYa
  /-- A Tifinagh consonant, which takes another one before a joiner. -/
  | consonant
  /-- The joining sign of Tifinagh and a consonant, which take another one. -/
  | joinedConsonant
  /-- A tone letter of Lisu, which takes another one before it. -/
  | tone
  /-- An Old Turkic I, which takes a letter before a joiner. -/
  | orkhonI
  /-- A Khmer letter that fits below another, which takes a sign for that. -/
  | subscript
  deriving DecidableEq, Repr

/-- What follows a character, as far as it bears on its columns. -/
inductive Following where
  /-- Nothing that matters. -/
  | other
  | lineFeed
  /-- The end of a ligature; whether a joiner precedes it, and whether the
      selectors for a picture and for a plain sign do. -/
  | ligature (last : Ligature) (joiner forPicture forSign : Bool)
  /-- The selector for a picture. -/
  | forPicture
  /-- The selector for a plain sign. -/
  | forSign
  | modifier
  /-- Half of a flag, and whether another half follows. -/
  | flagHalf (several : Bool)
  | picture
  /-- A joiner and a picture, and whether the selector for a picture precedes
      them. -/
  | joined (selected : Bool)
  /-- A sign for a key before a joiner and a picture, and the same. -/
  | joinedKey (selected : Bool)
  /-- An odd number of halves of flags before a joiner and a picture; whether
      it is one. -/
  | joinedOddFlags (one : Bool)
  /-- An even number of halves of flags before a joiner and a picture. -/
  | joinedEvenFlags
  /-- Letters of a region and the end of a tag before a joiner and a picture. -/
  | joinedTagLetters (count : Nat)
  /-- Digits of a region before the same. -/
  | joinedTagDigits (count : Nat)
  /-- A vowel sign E of Kirat Rai. -/
  | vowelE
  /-- A vowel sign AI of Kirat Rai. -/
  | vowelAi
  deriving DecidableEq, Repr

namespace Following

/-- Whether a picture is selected. -/
def isForPicture : Following → Bool
  | ligature _ _ selected _ => selected
  | forPicture | joined true | joinedKey true => true
  | _ => false

/-- What follows once a picture was not selected. -/
def dropForPicture : Following → Following
  | ligature last joiner _ plain => ligature last joiner false plain
  | _ => other

/-- What follows the selector for a picture, with the selector. -/
def selectPicture : Following → Following
  | ligature last joiner _ plain => ligature last joiner true plain
  | joined _ => joined true
  | joinedKey _ => joinedKey true
  | _ => forPicture

/-- Whether a plain sign is selected. -/
def isForSign : Following → Bool
  | ligature _ _ _ selected => selected
  | forSign => true
  | _ => false

/-- What follows once a plain sign was not selected. -/
def dropForSign : Following → Following
  | ligature last joiner selected _ => ligature last joiner selected false
  | _ => other

/-- What follows the selector for a plain sign, with the selector. -/
def selectSign : Following → Following
  | ligature last joiner selected _ => ligature last joiner selected true
  | _ => forSign

end Following

/-! ## Classes of characters -/

/-- The forms of the Arabic letter Alef. -/
def isAlef (n : Nat) : Bool :=
  inRanges [(0x622, 0x623), (0x625, 0x625), (0x627, 0x627), (0x671, 0x673), (0x675, 0x675),
    (0x773, 0x774), (0x870, 0x882)] n

/-- The forms of the Arabic letter Lam. -/
def isLam (n : Nat) : Bool :=
  inRanges [(0x644, 0x644), (0x6B5, 0x6B8), (0x76A, 0x76A), (0x8A6, 0x8A6), (0x8C7, 0x8C7)] n

/-- The letters of Khmer that fit below others. -/
def isSubscript (n : Nat) : Bool :=
  inRanges [(0x1780, 0x1782), (0x1784, 0x1787), (0x1789, 0x178C), (0x178E, 0x1793),
    (0x1795, 0x1798), (0x179B, 0x179D), (0x17A0, 0x17A0), (0x17A2, 0x17A2), (0x17A7, 0x17A7),
    (0x17AB, 0x17AC), (0x17AF, 0x17AF)] n

/-- The consonants of Tifinagh. -/
def isTifinagh (n : Nat) : Bool := inRanges [(0x2D31, 0x2D65), (0x2D6F, 0x2D6F)] n

/-- The tone letters of Lisu that take another one after them. -/
def isFirstTone (n : Nat) : Bool := 0xA4F8 ≤ n && n ≤ 0xA4FB

/-- Marks that are not shown and leave ligatures alone. -/
def isHiddenMark (n : Nat) : Bool :=
  inRanges [(0x34F, 0x34F), (0x17B4, 0x17B5), (0x180B, 0x180D), (0x180F, 0x180F),
    (0xFE00, 0xFE0F), (0xE0100, 0xE01EF)] n

/-- The pictures that a selector turns into plain signs of one column. -/
def hasNarrowForm (c : Char) : Bool :=
  isEmoji c && hasForms c && !(0x1F200 ≤ c.toNat && c.toNat ≤ 0x1F2FF)

/-- What a character is for the one before it. -/
def opening (c : Char) : Following :=
  let n := c.toNat
  if n = 0x5DC then .ligature .lamed false false false
  else if isAlef n then .ligature .alef false false false
  else if isSubscript n then .ligature .subscript false false false
  else if n = 0x1A10 then .ligature .ya false false false
  else if isTifinagh n then .ligature .consonant false false false
  else if n = 0xA4FC || n = 0xA4FD then .ligature .tone false false false
  else if n = 0x10C03 then .ligature .orkhonI false false false
  else if n = 0xFE0E then .forSign
  else if n = 0xFE0F then .forPicture
  else if n = 0x16D67 then .vowelE
  else if n = 0x16D68 then .vowelAi
  else if isFlagHalf c then .flagHalf false
  else if isModifier c then .modifier
  else if isEmoji c then .picture
  else .other

/-! ## Columns -/

/-- What a character adds before the end of a ligature, if it belongs to it. -/
def stepLigature (n : Nat) (joiner : Bool) : Ligature → Option (Int × Following)
  | .alef => if isLam n then some (0, .other) else none
  | .lamed => if joiner && n = 0x5D0 then some (0, .other) else none
  | .ya =>
    if joiner && n = 0x1A17 then some (0, .ligature .vowelYa true false false) else none
  | .vowelYa => if n = 0x1A15 then some (0, .other) else none
  | .consonant =>
    if n = 0x2D7F then some (1, .ligature .joinedConsonant true false false)
    else if joiner && isTifinagh n then some (0, .other)
    else none
  | .joinedConsonant => if isTifinagh n then some (-1, .other) else none
  | .tone => if isFirstTone n then some (0, .other) else none
  | .orkhonI => if joiner && n = 0x10C32 then some (0, .other) else none
  | .subscript => if n = 0x17D2 then some (-1, .other) else none

/-- What a character adds before a joiner and a picture, if it is the end of
    another picture. -/
def stepJoined (c : Char) : Option (Int × Following) :=
  let n := c.toNat
  if n = 0x20E3 then some (0, .joinedKey false)
  else if isFlagHalf c then some (1, .joinedOddFlags true)
  else if isModifier c then some (0, .modifier)
  else if n = 0xE007F then some (0, .joinedTagLetters 0)
  else if isEmoji c then some (0, .picture)
  else none

/-- What a character adds before a tag with a number of letters, or digits, if
    it belongs to the tag: three to six letters or three digits name a
    region. -/
def stepTag (n letters digits : Nat) : Option (Int × Following) :=
  if digits = 0 && letters < 6 && 0xE0061 ≤ n && n ≤ 0xE007A then
    some (0, .joinedTagLetters (letters + 1))
  else if letters ≤ 4 && digits < 3 && 0xE0030 ≤ n && n ≤ 0xE0039 then
    some (0, .joinedTagDigits (digits + 1))
  else if (3 ≤ letters || digits = 3) && n = 0x1F3F4 then some (0, .picture)
  else none

/-- What a character adds before given ones, if it is drawn in one piece with
    them. -/
def stepTogether (c : Char) : Following → Option (Int × Following)
  | .ligature last joiner selected plain =>
    let n := c.toNat
    if last = .alef then
      if isLam n then some (0, .other)
      else if charWidth c = 0 && isTransparent c then
        some (0, .ligature .alef joiner selected plain)
      else none
    else if n = 0x200D then some (0, .ligature last true selected plain)
    else if isHiddenMark n then some (0, .ligature last joiner selected plain)
    else stepLigature n joiner last
  | .modifier =>
    if takesModifier c then some (0, .picture)
    else if c.toNat = 0x200D then some (0, .joined false)
    else none
  | .flagHalf several =>
    if isFlagHalf c then some (1, .flagHalf true)
    else if several && c.toNat = 0x200D then some (0, .joined false)
    else none
  | .picture => if c.toNat = 0x200D then some (0, .joined false) else none
  | .joined _ => stepJoined c
  | .joinedOddFlags one =>
    if isFlagHalf c then some (-1, .joinedEvenFlags)
    else if !one && c.toNat = 0x200D then some (0, .joined false)
    else none
  | .joinedEvenFlags =>
    if isFlagHalf c then some (3, .joinedOddFlags false)
    else if c.toNat = 0x200D then some (0, .joined false)
    else none
  | .joinedTagLetters letters => stepTag c.toNat letters 0
  | .joinedTagDigits digits => stepTag c.toNat 0 digits
  | .vowelE =>
    let n := c.toNat
    if n = 0x16D63 || n = 0x16D69 then some (0, .other)
    else if n = 0x16D67 then some (0, .vowelAi)
    else if n = 0x16D68 then some (1, .vowelE)
    else none
  | .vowelAi => if c.toNat = 0x16D63 then some (0, .other) else none
  | _ => none

/-- What a character adds before given ones that select no picture. -/
def stepPlain (c : Char) (next : Following) : Int × Following :=
  if c.toNat ≤ 0xA0 then
    if c = '\r' && next = .lineFeed then (0, .other)
    else (1, if c = '\n' then .lineFeed else .other)
  else if next ≠ .other && c.toNat = 0xFE0F then (0, next.selectPicture)
  else if next ≠ .other && c.toNat = 0xFE0E then (0, next.selectSign)
  else if next.isForSign && hasNarrowForm c then (1, .other)
  else
    let next := if next.isForSign then next.dropForSign else next
    (stepTogether c next).getD (charWidth c, opening c)

/-- The columns that a character adds before given ones, and what it is with
    them for the character before it. -/
def step (c : Char) (next : Following) : Int × Following :=
  if next.isForPicture then
    if hasForms c then
      match next with
      | .joined _ | .joinedKey _ => (0, .picture)
      | _ => (2, .picture)
    else stepPlain c next.dropForPicture
  else stepPlain c next

/-- The columns that characters take. -/
def width (cs : List Char) : Nat :=
  (cs.foldr (fun c (sum, next) =>
    let (columns, next) := step c next
    (sum + columns, next)) ((0 : Int), Following.other)).1.toNat

end Concord.Text
