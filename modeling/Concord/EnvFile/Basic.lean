/-
  Files of variables.

  A line sets one variable: its name, an equals sign and its value; the word
  `export` may stand before the name.  A variable that the environment already
  has keeps its value, and a value may use variables of the environment and of
  the lines above.

  * `readLine`: the variable and the value of a line, if it sets one.
  * `load`: the environment after a file.  The lines before one that cannot be
    read keep their effect.
-/
import Concord.EnvFile.Value
import Concord.Environment

namespace Concord

namespace EnvFile

/-! ## Lines -/

/-- A line of which a part has been read. -/
structure Cursor where
  /-- The whole line. -/
  line : List Char
  /-- How many bytes have been read. -/
  position : Nat
  /-- What has not been read. -/
  rest : List Char

namespace Cursor

/-- The error at the position of a cursor. -/
def malformed (c : Cursor) : EnvFileError := .malformed (String.ofList c.line) c.position

/-- A cursor behind the leading run of a class of characters, and that run. -/
def takeWhile (c : Cursor) (p : Char → Bool) : List Char × Cursor :=
  let read := c.rest.takeWhile p
  (read, { c with
    position := c.position + (String.ofList read).utf8ByteSize
    rest := c.rest.dropWhile p })

/-- A cursor behind blanks. -/
def skipBlanks (c : Cursor) : Cursor := (c.takeWhile Text.isBlank).2

/-- Whether nothing is left but perhaps a comment. -/
def atEnd (c : Cursor) : Bool := c.rest.isEmpty || c.rest.head? == some '#'

/-- The characters that the name of a variable may start with. -/
def startsName (c : Char) : Bool := c.isAlpha || c == '_'

/-- The characters of the name of a variable. -/
def continuesName (c : Char) : Bool := c.isAlphanum || c == '_' || c == '.'

/-- The name of a variable and the blanks behind it. -/
def readName (c : Cursor) : Except EnvFileError (String × Cursor) :=
  if (c.rest.head?.map startsName).getD false then
    let (name, c) := c.takeWhile continuesName
    .ok (String.ofList name, c.skipBlanks)
  else .error c.malformed

/-- The equals sign. -/
def readEquals (c : Cursor) : Except EnvFileError Cursor :=
  match c.rest with
  | '=' :: r => .ok { c with position := c.position + 1, rest := r }
  | _ => .error c.malformed

/-- The name of a variable and the equals sign; the word `export` may stand
    before the name, and is a name itself if the equals sign follows it. -/
def readTarget (c : Cursor) : Except EnvFileError (String × Cursor) := do
  let (name, c) ← c.readName
  if name = "export" ∧ c.rest.head? ≠ some '=' then
    let (name, c) ← c.readName
    .ok (name, ← c.readEquals)
  else .ok (name, ← c.readEquals)

end Cursor

/-- The variable and the value of a line, if it is neither blank nor a
    comment. -/
def readLine (lookup : List Char → List Char) (line : List Char) :
    Except EnvFileError (Option (String × String)) := do
  let c : Cursor := ⟨line, 0, Text.stripListEnd Text.isBlank line⟩
  let c := c.skipBlanks
  if c.atEnd then return none
  let (name, c) ← c.readTarget
  let c := c.skipBlanks
  if c.atEnd then return some (name, "")
  return some (name, String.ofList (← readValue lookup c.rest))

/-! ## Files -/

/-- The value that a variable has in a value; nothing if it is not set. -/
def valueIn (env : Environment) (name : List Char) : List Char :=
  ((env.lookup? (String.ofList name)).getD "").toList

/-- An environment with a variable, unless it has that already. -/
def setMissing (env : Environment) (name value : String) : Environment :=
  if env.contains name then env else env.insert name value

/-- The environment after some lines, and the error of the first that cannot be
    read. -/
def loadLines (env : Environment) :
    List (Except EnvFileError (List Char)) → Environment × Option EnvFileError
  | [] => (env, none)
  | .error e :: _ => (env, some e)
  | .ok line :: r =>
    match readLine (valueIn env) line with
    | .error e => (env, some e)
    | .ok none => loadLines env r
    | .ok (some (name, value)) => loadLines (setMissing env name value) r

/-- The bytes of a file line by line, with the line breaks. -/
def splitLines : List UInt8 → List (List UInt8)
  | [] => []
  | b :: r =>
    if b = 0x0A then [b] :: splitLines r
    else
      match splitLines r with
      | [] => [[b]]
      | line :: lines => (b :: line) :: lines

/-- The bytes of a file without the byte order mark that it may start with. -/
def dropMark : List UInt8 → List UInt8
  | 0xEF :: 0xBB :: 0xBF :: r => r
  | bytes => bytes

/-- The characters that bytes encode, if they encode any. -/
def decode? (bytes : List UInt8) : Option (List Char) :=
  (String.fromUTF8? (ByteArray.mk bytes.toArray)).map String.toList

/-- The environment after the file of variables with some content. -/
def load (env : Environment) (content : ByteArray) : Environment × Option EnvFileError :=
  let lines := (splitLines (dropMark content.toList)).map decode?
  loadLines env (joinLines .complete [] lines)

end EnvFile

end Concord
