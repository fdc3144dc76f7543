/-
  Tokens of YAML texts.

  Indentation is made explicit by tokens that open and close block
  collections, and the start of a mapping key is marked even where the text
  has no indicator for it.  Whether a node is such a key shows only when the
  colon after it is met; its place is remembered until then (`PossibleKey`).

  * `tokens?`: the tokens of a text, unless it is malformed.
-/
import Concord.Yaml.Scalar

namespace Concord.Yaml

/-! ## Tags -/

/-- The bytes of a tag: its escapes can write any. -/
abbrev TagBytes := List UInt8

namespace TagBytes

/-- The bytes of a text. -/
def ofString (s : String) : TagBytes := s.toUTF8.toList

/-- The bytes before the first zero byte, where a tag ends. -/
def upToZero (bytes : TagBytes) : TagBytes := bytes.takeWhile (· != 0)

/-- Whether a tag is no tag of the core schema but a local one. -/
def isLocal (bytes : TagBytes) : Bool := bytes.head? == some 0x21

/-- Whether the bytes encode a text. -/
def isText (bytes : TagBytes) : Bool := (String.fromUTF8? ⟨bytes.toArray⟩).isSome

end TagBytes

/-! ## Tokens -/

/-- What a token is. -/
inductive TokenKind where
  | streamEnd
  /-- A directive with the version of the language. -/
  | version (major minor : Nat)
  /-- A directive that gives a handle for the start of tags. -/
  | tagHandle (handle : String) (start : TagBytes)
  | documentStart | documentEnd
  | blockSequenceStart | blockMappingStart | blockEnd
  | flowSequenceStart | flowSequenceEnd | flowMappingStart | flowMappingEnd
  | blockEntry | flowEntry | key | value
  | reference (name : String)
  | anchor (name : String)
  | tag (handle : String) (suffix : TagBytes)
  | scalar (plain : Bool) (text : String)
  deriving DecidableEq, Repr

/-- A token with the places where it starts and stops. -/
structure Token where
  kind : TokenKind
  start : Mark
  stop : Mark
  deriving DecidableEq, Repr

/-! ## State -/

/-- A node that may turn out to be the key of a mapping. -/
structure PossibleKey where
  /-- Whether it must be one, as it starts a line of a block mapping. -/
  required : Bool
  /-- How many tokens stand before it. -/
  number : Nat
  mark : Mark

/-- What is known while tokens are read. -/
structure Lexer where
  rest : List Glyph
  /-- The tokens read, the last one first. -/
  tokens : List Token
  /-- How many tokens were read. -/
  count : Nat
  /-- How many flow collections are open. -/
  flow : Nat
  /-- The indentation of the innermost block collection, -1 outside of any. -/
  indent : Int
  /-- The indentations of the collections around it. -/
  indents : List Int
  /-- Whether a key may start here. -/
  keyAllowed : Bool
  /-- The possible key of the innermost flow collection. -/
  possible : Option PossibleKey
  /-- The possible keys of the collections around it. -/
  outer : List (Option PossibleKey)

namespace Lexer

/-- The state before the first token. -/
def start (gs : List Glyph) : Lexer := ⟨gs, [], 0, 0, -1, [], true, none, []⟩

/-- The place that was reached. -/
def mark (l : Lexer) : Mark := place l.rest

/-- Adds a token. -/
def emit (l : Lexer) (kind : TokenKind) (start stop : Mark) : Lexer :=
  { l with tokens := ⟨kind, start, stop⟩ :: l.tokens, count := l.count + 1 }

/-- Adds a token of so many characters. -/
def emitNext (l : Lexer) (kind : TokenKind) (characters : Nat) : Lexer :=
  let l' := { l with rest := l.rest.drop characters }
  l'.emit kind l.mark l'.mark

/-- Puts a token at a place and without width before a token that was read
    already. -/
def insertAt (l : Lexer) (number : Nat) (kind : TokenKind) (mark : Mark) : Lexer :=
  let later := l.count - number
  { l with
    tokens := l.tokens.take later ++ ⟨kind, mark, mark⟩ :: l.tokens.drop later
    count := l.count + 1 }

/-! ## Indentation -/

/-- Opens a block collection at a column, if it is further in than the current
    one. -/
def roll (l : Lexer) (column : Nat) (number : Nat) (kind : TokenKind) (mark : Mark) : Lexer :=
  if l.flow = 0 && l.indent < column then
    { l.insertAt number kind mark with indent := column, indents := l.indent :: l.indents }
  else l

/-- Closes the block collections that are further in than a column. -/
def unrollFrom (column : Int) : List Int → Lexer → Lexer
  | [], l => l
  | outer :: rest, l =>
    if column < l.indent then
      unrollFrom column rest
        { l.emit .blockEnd l.mark l.mark with indent := outer, indents := rest }
    else l

/-- Closes the block collections that are further in than a column. -/
def unroll (l : Lexer) (column : Int) : Lexer :=
  if l.flow = 0 then unrollFrom column l.indents l else l

/-! ## Possible keys -/

/-- A key must be followed by its colon on its line and within 1024 bytes. -/
def isStale (here : Mark) (k : PossibleKey) : Bool :=
  k.mark.line < here.line || k.mark.index + 1024 < here.index

/-- Gives up a possible key that has become stale; nothing if it was
    required. -/
def expire (here : Mark) : Option PossibleKey → Option (Option PossibleKey)
  | none => some none
  | some k =>
    if isStale here k then (if k.required then none else some none) else some (some k)

/-- Gives up the possible keys that have become stale. -/
def expireKeys (l : Lexer) : Option Lexer := do
  let possible ← expire l.mark l.possible
  let outer ← l.outer.mapM (expire l.mark)
  some { l with possible := possible, outer := outer }

/-- Gives up the possible key; nothing if it was required. -/
def dropKey (l : Lexer) : Option Lexer :=
  match l.possible with
  | some k => if k.required then none else some { l with possible := none }
  | none => some l

/-- Remembers that a key may start here. -/
def saveKey (l : Lexer) : Option Lexer :=
  if l.keyAllowed then do
    let l ← l.dropKey
    let required := l.flow = 0 && l.indent = (l.mark.column : Int)
    some { l with possible := some ⟨required, l.count, l.mark⟩ }
  else some l

/-! ## Between tokens -/

/-- Skips blanks, comments and line breaks.  Tabs count as blanks only where no
    key may start; after a line break in a block collection one may. -/
def skipGap (inFlow : Bool) (keyAllowed : Bool) : List Glyph → Bool × List Glyph
  | [] => (keyAllowed, [])
  | g :: r =>
    if g.char == byteOrderMark && g.mark.column = 0 then skipGap inFlow keyAllowed r
    else if g.char == ' ' || (g.char == '\t' && (inFlow || !keyAllowed)) then
      skipGap inFlow keyAllowed r
    else if isBreak g.char then skipGap inFlow (keyAllowed || !inFlow) r
    else (keyAllowed, g :: r)

/-- Skips a comment up to the end of its line. -/
def skipComment (gs : List Glyph) : List Glyph :=
  if peek gs 0 == '#' then gs.dropWhile fun g => !isLineEnd g.char else gs

/-- Skips blanks, comments and line breaks; the fuel bounds the number of
    comments. -/
def skipTo (inFlow : Bool) : Nat → Bool → List Glyph → Bool × List Glyph
  | 0, keyAllowed, gs => (keyAllowed, gs)
  | fuel + 1, keyAllowed, gs =>
    let (keyAllowed, gs) := skipGap inFlow keyAllowed gs
    if peek gs 0 == '#' then skipTo inFlow fuel keyAllowed (skipComment gs) else (keyAllowed, gs)

/-! ## Names -/

/-- The name of an anchor or an alias after its indicator. -/
def anchorName? (gs : List Glyph) : Option (String × List Glyph) :=
  let name := (gs.takeWhile fun g => isWord g.char).map (·.char)
  let rest := gs.dropWhile fun g => isWord g.char
  let next := peek rest 0
  let mayFollow := isGap next || next == '?' || next == ':' || next == ',' || next == ']' ||
    next == '\x7d' || next == '%' || next == '@' || next == '\x60'
  if name.isEmpty || !mayFollow then none else some (String.ofList name, rest)

/-- A character of a tag; a comma or a bracket only between angle brackets. -/
def isTagChar (verbatim : Bool) (c : Char) : Bool :=
  isWord c || ";/?:@&=+$.%!~*'()".toList.contains c ||
    (verbatim && (c == ',' || c == '[' || c == ']'))

/-- The byte of an escape in a tag. -/
def escapedByte? : List Glyph → Option (UInt8 × List Glyph)
  | p :: a :: b :: r =>
    if p.char == '%' then do
      let high ← hexDigit? a.char
      let low ← hexDigit? b.char
      some (UInt8.ofNat (high * 16 + low), r)
    else none
  | _ => none

/-- The escaped bytes that must follow the first one of a sequence. -/
def continuation? : Nat → TagBytes → List Glyph → Option (TagBytes × List Glyph)
  | 0, bytes, gs => some (bytes, gs)
  | k + 1, bytes, gs => do
    let (b, r) ← escapedByte? gs
    if 0x80 ≤ b && b < 0xC0 then continuation? k (bytes ++ [b]) r else none

/-- An escaped sequence of a tag: its first byte says how many follow. -/
def escapedSequence? (gs : List Glyph) : Option (TagBytes × List Glyph) := do
  let (b, r) ← escapedByte? gs
  if b < 0x80 then some ([b], r)
  else if 0xC0 ≤ b && b < 0xE0 then continuation? 1 [b] r
  else if 0xE0 ≤ b && b < 0xF0 then continuation? 2 [b] r
  else if 0xF0 ≤ b && b < 0xF8 then continuation? 3 [b] r
  else none

/-- The bytes of a tag after those read already; the fuel bounds the number of
    characters and escapes. -/
def tagBytesFrom? (verbatim : Bool) : Nat → TagBytes → List Glyph → Option (TagBytes × List Glyph)
  | 0, acc, gs => some (acc, gs)
  | fuel + 1, acc, gs =>
    match gs with
    | [] => some (acc, gs)
    | g :: r =>
      if !isTagChar verbatim g.char then some (acc, gs)
      else if g.char == '%' then
        match escapedSequence? gs with
        | some (bytes, r) => tagBytesFrom? verbatim fuel (acc ++ bytes) r
        | none => none
      else tagBytesFrom? verbatim fuel (acc ++ TagBytes.ofString g.char.toString) r

/-- The bytes of a tag from here on. -/
def tagBytes? (verbatim : Bool) (gs : List Glyph) : Option (TagBytes × List Glyph) :=
  tagBytesFrom? verbatim gs.length [] gs

/-- An exclamation mark with a word after it, perhaps closed by another mark:
    the word, and whether it is closed. -/
def handle? (gs : List Glyph) : Option (String × Bool × List Glyph) :=
  if peek gs 0 == '!' then
    let gs := gs.tail
    let word := String.ofList ((gs.takeWhile fun g => isWord g.char).map (·.char))
    let rest := gs.dropWhile fun g => isWord g.char
    if peek rest 0 == '!' then some (word, true, rest.tail) else some (word, false, rest)
  else none

/-- A tag: its handle and its suffix.  A tag between angle brackets has no
    handle, and the tag that is only a mark has itself as its suffix. -/
def tag? (gs : List Glyph) : Option (String × TagBytes × List Glyph) :=
  if peek gs 1 == '<' then do
    let (suffix, r) ← tagBytes? true (gs.drop 2)
    if suffix.isEmpty || peek r 0 != '>' then none else some ("", suffix.upToZero, r.tail)
  else do
    let (word, closed, r) ← handle? gs
    let (suffix, r) ← tagBytes? false r
    if closed then
      if suffix.isEmpty then none else some ("!" ++ word ++ "!", suffix.upToZero, r)
    else
      let suffix := (TagBytes.ofString word ++ suffix).upToZero
      if suffix.isEmpty then some ("", TagBytes.ofString "!", r) else some ("!", suffix, r)

/-! ## Directives -/

/-- A number of at most nine digits. -/
def versionNumber? (gs : List Glyph) : Option (Nat × List Glyph) :=
  let ds := gs.takeWhile fun g => g.char.isDigit
  if ds.isEmpty || 9 < ds.length then none
  else
    some (ds.foldl (fun n g => n * 10 + (g.char.toNat - '0'.toNat)) 0,
      gs.dropWhile fun g => g.char.isDigit)

/-- Skips blanks. -/
def skipBlanks (gs : List Glyph) : List Glyph := gs.dropWhile fun g => isBlank g.char

/-- The version of the language, after the name of the directive. -/
def versionDirective? (gs : List Glyph) : Option (TokenKind × List Glyph) := do
  let (major, r) ← versionNumber? (skipBlanks gs)
  if peek r 0 != '.' then none
  else
    let (minor, r) ← versionNumber? r.tail
    some (.version major minor, r)

/-- A handle and what it stands for, after the name of the directive. -/
def tagDirective? (gs : List Glyph) : Option (TokenKind × List Glyph) := do
  let (word, closed, r) ← handle? (skipBlanks gs)
  if (!closed && !word.isEmpty) || !isBlank (peek r 0) then none
  else
    let (start, r) ← tagBytes? true (skipBlanks r)
    if start.isEmpty || !isGap (peek r 0) then none
    else some (.tagHandle ("!" ++ word ++ if closed then "!" else "") start.upToZero, r)

/-- A directive after its indicator. -/
def directive? (gs : List Glyph) : Option (TokenKind × List Glyph) := do
  let name := String.ofList ((gs.takeWhile fun g => isWord g.char).map (·.char))
  let r := gs.dropWhile fun g => isWord g.char
  if !isGap (peek r 0) then none
  else
    let (kind, r) ←
      if name = "YAML" then versionDirective? r
      else if name = "TAG" then tagDirective? r
      else none
    let r ← restOfLine? r
    some (kind, r)

/-! ## One token -/

/-- The end of the text closes all collections. -/
def fetchEnd (l : Lexer) : Option Lexer := do
  let here := l.mark
  let there := if here.column = 0 then here else here.nextLine 0
  let l := { l with rest := [⟨endChar, there⟩] }.unroll (-1)
  let l ← l.dropKey
  some { l.emit .streamEnd there there with keyAllowed := false, rest := [] }

/-- A directive. -/
def fetchDirective (l : Lexer) : Option Lexer := do
  let l ← (l.unroll (-1)).dropKey
  let here := l.mark
  let (kind, rest) ← directive? l.rest.tail
  let l := { l with keyAllowed := false, rest := rest }
  some (l.emit kind here l.mark)

/-- The start or the end of a document. -/
def fetchDocumentMarker (l : Lexer) (kind : TokenKind) : Option Lexer := do
  let l ← (l.unroll (-1)).dropKey
  some ({ l with keyAllowed := false }.emitNext kind 3)

/-- The start of a flow collection. -/
def fetchFlowStart (l : Lexer) (kind : TokenKind) : Option Lexer := do
  let l ← l.saveKey
  let l :=
    { l with
      flow := l.flow + 1
      possible := none
      outer := l.possible :: l.outer
      keyAllowed := true }
  some (l.emitNext kind 1)

/-- The end of a flow collection. -/
def fetchFlowEnd (l : Lexer) (kind : TokenKind) : Option Lexer := do
  let l ← l.dropKey
  let l :=
    match l.outer with
    | possible :: outer => { l with flow := l.flow - 1, possible := possible, outer := outer }
    | [] => l
  some ({ l with keyAllowed := false }.emitNext kind 1)

/-- The comma of a flow collection. -/
def fetchFlowEntry (l : Lexer) : Option Lexer := do
  let l ← l.dropKey
  some ({ l with keyAllowed := true }.emitNext .flowEntry 1)

/-- The dash of a block sequence. -/
def fetchBlockEntry (l : Lexer) : Option Lexer := do
  let l ←
    if l.flow = 0 then
      if l.keyAllowed then some (l.roll l.mark.column l.count .blockSequenceStart l.mark) else none
    else some l
  let l ← l.dropKey
  some ({ l with keyAllowed := true }.emitNext .blockEntry 1)

/-- The question mark before a key. -/
def fetchKey (l : Lexer) : Option Lexer := do
  let l ←
    if l.flow = 0 then
      if l.keyAllowed then some (l.roll l.mark.column l.count .blockMappingStart l.mark) else none
    else some l
  let l ← l.dropKey
  some ({ l with keyAllowed := l.flow = 0 }.emitNext .key 1)

/-- The colon before a value: what was possibly a key is one. -/
def fetchValue (l : Lexer) : Option Lexer := do
  match l.possible with
  | some k =>
    let l := l.insertAt k.number .key k.mark
    let l := l.roll k.mark.column k.number .blockMappingStart k.mark
    some ({ l with possible := none, keyAllowed := false }.emitNext .value 1)
  | none =>
    let l ←
      if l.flow = 0 then
        if l.keyAllowed then some (l.roll l.mark.column l.count .blockMappingStart l.mark)
        else none
      else some l
    some ({ l with keyAllowed := l.flow = 0 }.emitNext .value 1)

/-- An alias or an anchor. -/
def fetchAnchor (l : Lexer) (kind : String → TokenKind) : Option Lexer := do
  let l ← l.saveKey
  let here := l.mark
  let (name, rest) ← anchorName? l.rest.tail
  let l := { l with keyAllowed := false, rest := rest }
  some (l.emit (kind name) here l.mark)

/-- A tag. -/
def fetchTag (l : Lexer) : Option Lexer := do
  let l ← l.saveKey
  let here := l.mark
  let (handle, suffix, rest) ← tag? l.rest
  let next := peek rest 0
  if !isGap next && !(0 < l.flow && next == ',') then none
  else
    let l := { l with keyAllowed := false, rest := rest }
    some (l.emit (.tag handle suffix) here l.mark)

/-- A block scalar. -/
def fetchBlockScalar (l : Lexer) (literal : Bool) : Option Lexer := do
  let l ← l.dropKey
  let here := l.mark
  let (text, rest) ← block? literal l.indent l.rest.tail
  let l := { l with keyAllowed := true, rest := rest }
  some (l.emit (.scalar false text) here l.mark)

/-- A quoted scalar. -/
def fetchQuoted (l : Lexer) (single : Bool) : Option Lexer := do
  let l ← l.saveKey
  let here := l.mark
  let (text, rest) ← quoted? single l.rest
  let l := { l with keyAllowed := false, rest := rest }
  some (l.emit (.scalar false text) here l.mark)

/-- A plain scalar. -/
def fetchPlain (l : Lexer) : Option Lexer := do
  let l ← l.saveKey
  let here := l.mark
  let (text, newLine, rest) ← plain? (0 < l.flow) (l.indent + 1) l.rest
  let l := { l with keyAllowed := newLine, rest := rest }
  some (l.emit (.scalar true text) here l.mark)

/-- Whether a plain scalar starts with a character before another one. -/
def startsPlain (inFlow : Bool) (c next : Char) : Bool :=
  (!isGap c && !"-?:,[]\x7b\x7d#&*!|>'\"%@\x60".toList.contains c) ||
    (c == '-' && !isBlank next) || (!inFlow && (c == '?' || c == ':') && !isGap next)

/-- The token that starts here. -/
def fetchHere (l : Lexer) : Option Lexer :=
  let c := peek l.rest 0
  let next := peek l.rest 1
  let inFlow := decide (0 < l.flow)
  if c == endChar then l.fetchEnd
  else if l.mark.column = 0 && c == '%' then l.fetchDirective
  else if isDocumentMarker l.rest then
    l.fetchDocumentMarker (if c == '-' then .documentStart else .documentEnd)
  else if c == '[' then l.fetchFlowStart .flowSequenceStart
  else if c == '\x7b' then l.fetchFlowStart .flowMappingStart
  else if c == ']' then l.fetchFlowEnd .flowSequenceEnd
  else if c == '\x7d' then l.fetchFlowEnd .flowMappingEnd
  else if c == ',' then l.fetchFlowEntry
  else if c == '-' && isGap next then l.fetchBlockEntry
  else if c == '?' && (inFlow || isGap next) then l.fetchKey
  else if c == ':' && (inFlow || isGap next) then l.fetchValue
  else if c == '*' then l.fetchAnchor .reference
  else if c == '&' then l.fetchAnchor .anchor
  else if c == '!' then l.fetchTag
  else if c == '|' && !inFlow then l.fetchBlockScalar true
  else if c == '>' && !inFlow then l.fetchBlockScalar false
  else if c == '\'' then l.fetchQuoted true
  else if c == '"' then l.fetchQuoted false
  else if startsPlain inFlow c next then l.fetchPlain
  else none

/-- The next token, after the gap before it. -/
def fetch (l : Lexer) : Option Lexer := do
  let (keyAllowed, rest) := skipTo (0 < l.flow) (l.rest.length + 1) l.keyAllowed l.rest
  let l ← { l with keyAllowed := keyAllowed, rest := rest }.expireKeys
  (l.unroll l.mark.column).fetchHere

/-- All tokens; every one takes a glyph at least, which bounds their number. -/
def run : Nat → Lexer → Option Lexer
  | 0, l => some l
  | fuel + 1, l =>
    if l.rest.isEmpty then some l
    else
      match l.fetch with
      | some l => run fuel l
      | none => none

end Lexer

/-- The tokens of a text. -/
def tokens? (s : String) : Option (List Token) := do
  let gs ← glyphs? s
  let l ← Lexer.run (gs.length + 1) (Lexer.start gs)
  some l.tokens.reverse

end Concord.Yaml
