/-
  Scalars in YAML texts.

  Every function takes the glyphs from a scalar on and gives its text with the
  glyphs after it, or nothing where the scalar is malformed.

  * Line breaks inside plain and quoted scalars are folded: one becomes a
    space, of more than one the first is dropped (`Fold`).
  * `quoted?`: a scalar between single or double quotes.
  * `plain?`: a scalar without quotes.
  * `block?`: a literal or folded scalar of indented lines.
-/
import Concord.Yaml.Glyph

namespace Concord.Yaml

/-! ## Folding -/

/-- A text that is being read, with the blanks and line breaks after it. -/
structure Fold where
  /-- The characters read, in reverse. -/
  text : List Char
  /-- The blanks since the last character, in reverse. -/
  blanks : List Char
  /-- The first line break since the last character. -/
  firstBreak : Option Char
  /-- The line breaks after the first one, in reverse. -/
  moreBreaks : List Char
  /-- Whether a line break came since the last character. -/
  onNewLine : Bool
  /-- Whether a blank or a line break came since the last character. -/
  inGap : Bool

namespace Fold

/-- Nothing read yet. -/
def empty : Fold := ⟨[], [], none, [], false, false⟩

/-- A blank: one at the start of a line counts for nothing. -/
def blank (f : Fold) (c : Char) : Fold :=
  if f.onNewLine then { f with inGap := true }
  else { f with blanks := c :: f.blanks, inGap := true }

/-- A line break: blanks before it count for nothing. -/
def lineBreak (f : Fold) (c : Char) : Fold :=
  if f.onNewLine then { f with moreBreaks := c :: f.moreBreaks, inGap := true }
  else { f with blanks := [], firstBreak := some c, onNewLine := true, inGap := true }

/-- A line break that is escaped: it and the blanks after it count for
    nothing. -/
def escapedBreak (f : Fold) : Fold := { f with blanks := [], onNewLine := true, inGap := true }

/-- Puts what the gap stands for behind the text. -/
def join (f : Fold) : Fold :=
  let gap :=
    if f.onNewLine then
      match f.firstBreak with
      | some '\n' => if f.moreBreaks.isEmpty then [' '] else f.moreBreaks
      | some c => f.moreBreaks ++ [c]
      | none => f.moreBreaks
    else f.blanks
  ⟨gap ++ f.text, [], none, [], false, false⟩

/-- A character of the text. -/
def push (f : Fold) (c : Char) : Fold := { f with text := c :: f.text }

/-- The text without the gap after it. -/
def result (f : Fold) : String := String.ofList f.text.reverse

end Fold

/-! ## Quoted scalars -/

/-- The value of a hexadecimal digit. -/
def hexDigit? (c : Char) : Option Nat :=
  if c.isDigit then some (c.toNat - '0'.toNat)
  else if 'a' ≤ c ∧ c ≤ 'f' then some (c.toNat - 'a'.toNat + 10)
  else if 'A' ≤ c ∧ c ≤ 'F' then some (c.toNat - 'A'.toNat + 10)
  else none

/-- The number of hexadecimal digits. -/
def hexNumber? (gs : List Glyph) : Option Nat :=
  gs.foldlM (fun n g => (hexDigit? g.char).map (n * 16 + ·)) 0

/-- The character of a code point, unless there is none. -/
def character? (n : Nat) : Option Char :=
  if h : n.isValidChar then some (Char.ofNatAux n h) else none

/-- The character that a letter stands for after a backslash. -/
def escaped? (c : Char) : Option Char :=
  match c with
  | '0' => some '\x00'
  | 'a' => some '\x07'
  | 'b' => some '\x08'
  | 't' | '\t' => some '\t'
  | 'n' => some '\n'
  | 'v' => some '\x0b'
  | 'f' => some '\x0c'
  | 'r' => some '\r'
  | 'e' => some '\x1b'
  | ' ' | '"' | '/' | '\\' => some c
  | 'N' => some '\u0085'
  | '_' => some '\u00a0'
  | 'L' => some '\u2028'
  | 'P' => some '\u2029'
  | _ => none

/-- How many hexadecimal digits follow a letter after a backslash. -/
def escapeLength (c : Char) : Nat :=
  match c with
  | 'x' => 2
  | 'u' => 4
  | 'U' => 8
  | _ => 0

/-- The rest of a quoted scalar, after what was read of it. -/
def quotedRest? (single : Bool) (f : Fold) : List Glyph → Option (String × List Glyph)
  | [] => none
  | g :: r =>
    let c := g.char
    if c == endChar then none
    else if isBlank c then quotedRest? single (f.blank c) r
    else if isBreak c then quotedRest? single (f.lineBreak c) r
    else if f.inGap && isDocumentMarker (g :: r) then none
    else
      let f := if f.inGap then f.join else f
      if single then
        if c == '\'' then
          match r with
          | h :: r' =>
            if h.char == '\'' then quotedRest? single (f.push '\'') r' else some (f.result, r)
          | [] => some (f.result, r)
        else quotedRest? single (f.push c) r
      else if c == '"' then some (f.result, r)
      else if c == '\\' then
        match r with
        | [] => none
        | h :: r =>
          if isBreak h.char then quotedRest? single f.escapedBreak r
          else
            let n := escapeLength h.char
            if 0 < n then
              if r.length < n then none
              else
                match (hexNumber? (r.take n)).bind character? with
                | some c => quotedRest? single (f.push c) (r.drop n)
                | none => none
            else
              match escaped? h.char with
              | some c => quotedRest? single (f.push c) r
              | none => none
      else quotedRest? single (f.push c) r
termination_by gs => gs.length
decreasing_by all_goals simp only [List.length_cons, List.length_drop]; omega

/-- A quoted scalar from its opening quote on. -/
def quoted? (single : Bool) (gs : List Glyph) : Option (String × List Glyph) :=
  quotedRest? single Fold.empty gs.tail

/-! ## Plain scalars -/

/-- The brackets and the comma of flow collections. -/
def isFlowIndicator (c : Char) : Bool :=
  c == ',' || c == '[' || c == ']' || c == '\x7b' || c == '\x7d'

/-- Whether a plain scalar ends before a character: a colon before a gap, or an
    indicator of the flow collection around it. -/
def endsPlain (inFlow : Bool) (c next : Char) : Bool :=
  (c == ':' && isGap next) || (inFlow && isFlowIndicator c)

/-- The rest of a plain scalar with at least so much indentation, after what
    was read of it; whether the scalar was followed by a line break. -/
def plainRest? (inFlow : Bool) (indent : Int) (f : Fold) :
    List Glyph → Option (String × Bool × List Glyph)
  | [] => some (f.result, f.onNewLine, [])
  | g :: r =>
    let c := g.char
    if c == endChar then some (f.result, f.onNewLine, g :: r)
    else if isBlank c then
      if f.onNewLine && (g.mark.column : Int) < indent && c == '\t' then none
      else plainRest? inFlow indent (f.blank c) r
    else if isBreak c then plainRest? inFlow indent (f.lineBreak c) r
    else if f.inGap && ((!inFlow && (g.mark.column : Int) < indent) || c == '#' ||
        isDocumentMarker (g :: r)) then
      some (f.result, f.onNewLine, g :: r)
    else
      let next := peek r 0
      if inFlow && c == ':' && (isFlowIndicator next || next == '?') then none
      else if endsPlain inFlow c next then some (f.result, f.onNewLine, g :: r)
      else plainRest? inFlow indent ((if f.inGap then f.join else f).push c) r

/-- A plain scalar with at least so much indentation; whether it was followed
    by a line break. -/
def plain? (inFlow : Bool) (indent : Int) (gs : List Glyph) :
    Option (String × Bool × List Glyph) :=
  plainRest? inFlow indent Fold.empty gs

/-! ## Block scalars -/

/-- What becomes of the line breaks at the end of a block scalar. -/
inductive Chomping where
  /-- All are dropped. -/
  | strip
  /-- One is kept. -/
  | clip
  /-- All are kept. -/
  | keep
  deriving DecidableEq

/-- The chomping and indentation indicators of a block scalar, in any order. -/
def blockHeader? (gs : List Glyph) : Option (Chomping × Option Nat × List Glyph) :=
  let chomping? := fun c : Char =>
    if c == '+' then some Chomping.keep else if c == '-' then some Chomping.strip else none
  let digit? := fun c : Char => if c.isDigit then some (c.toNat - '0'.toNat) else none
  let found :=
    match chomping? (peek gs 0) with
    | some chomping =>
      match digit? (peek gs 1) with
      | some n => (chomping, some n, gs.drop 2)
      | none => (chomping, none, gs.drop 1)
    | none =>
      match digit? (peek gs 0) with
      | some n =>
        match chomping? (peek gs 1) with
        | some chomping => (chomping, some n, gs.drop 2)
        | none => (Chomping.clip, some n, gs.drop 1)
      | none => (Chomping.clip, none, gs)
  if found.2.1 = some 0 then none else some found

/-- The empty lines of a block scalar from here on, of which the indentation is
    dropped as far as it is known: their line breaks in reverse, the widest
    indentation among them and the line after them, and what follows.  A tab in
    the place of indentation is refused. -/
def emptyLines? (indent : Option Nat) (widest : Nat) (breaks : List Char) :
    List Glyph → Option (List Char × Nat × List Glyph)
  | [] => some (breaks, widest, [])
  | g :: r =>
    let inIndent := indent.all fun n => decide (g.mark.column < n)
    if inIndent && g.char == ' ' then emptyLines? indent widest breaks r
    else
      let widest := max widest g.mark.column
      if inIndent && g.char == '\t' then none
      else if isBreak g.char then emptyLines? indent widest (g.char :: breaks) r
      else some (breaks, widest, g :: r)

/-- The characters of a line in reverse, before those read already, and what
    follows. -/
def lineChars (text : List Char) : List Glyph → List Char × List Glyph
  | [] => (text, [])
  | g :: r => if isLineEnd g.char then (text, g :: r) else lineChars (g.char :: text) r

/-- What has been read of a block scalar. -/
structure BlockText where
  /-- The characters, in reverse. -/
  text : List Char
  /-- The break after the last line. -/
  lastBreak : Option Char
  /-- The breaks of the empty lines after that, in reverse. -/
  breaks : List Char
  /-- Whether the last line started with a blank. -/
  blankStart : Bool

/-- The text before a further line that does or does not start with a blank. -/
def BlockText.joined (literal : Bool) (b : BlockText) (blankStart : Bool) : List Char :=
  if !literal && b.lastBreak == some '\n' && !b.blankStart && !blankStart then
    b.breaks ++ (if b.breaks.isEmpty then [' '] else []) ++ b.text
  else b.breaks ++ b.lastBreak.toList ++ b.text

/-- The lines of a block scalar with a known indentation; the fuel bounds their
    number. -/
def blockLines? (literal : Bool) (indent : Nat) :
    Nat → BlockText → List Glyph → Option (BlockText × List Glyph)
  | 0, b, gs => some (b, gs)
  | fuel + 1, b, gs =>
    if (place gs).column = indent && peek gs 0 != endChar then
      let blankStart := isBlank (peek gs 0)
      let (text, rest) := lineChars (b.joined literal blankStart) gs
      let (lastBreak, rest) :=
        match rest with
        | g :: r => if isBreak g.char then (some g.char, r) else (none, g :: r)
        | [] => (none, [])
      match emptyLines? (some indent) 0 [] rest with
      | some (breaks, _, rest) =>
        blockLines? literal indent fuel ⟨text, lastBreak, breaks, blankStart⟩ rest
      | none => none
    else some (b, gs)

/-- A block scalar after its indicator, inside a collection of an
    indentation. -/
def block? (literal : Bool) (parent : Int) (gs : List Glyph) : Option (String × List Glyph) := do
  let (chomping, increment, gs) ← blockHeader? gs
  let gs ← restOfLine? gs
  let given := increment.map fun n => (if 0 ≤ parent then parent + n else n).toNat
  let (breaks, widest, gs) ← emptyLines? given 0 [] gs
  let indent := given.getD (max widest (max (parent + 1) 1).toNat)
  let (b, rest) ← blockLines? literal indent gs.length ⟨[], none, breaks, false⟩ gs
  let text :=
    match chomping with
    | .strip => b.text
    | .clip => b.lastBreak.toList ++ b.text
    | .keep => b.breaks ++ b.lastBreak.toList ++ b.text
  some (String.ofList text.reverse, rest)

end Concord.Yaml
