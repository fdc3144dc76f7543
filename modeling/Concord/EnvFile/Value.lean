/-
  The value of a variable in a file of variables.

  Single quotes keep everything as it is.  Elsewhere a dollar starts the name
  of a variable, which is replaced by its value, and a backslash keeps the
  character after it.  Outside of quotes a blank ends the value; only a comment
  may follow.

  * `ValueState.next`: what a character makes of a value read so far.
  * `readValue`: the value of the rest of a line.
-/
import Concord.EnvFile.Line
import Concord.Text.Alphanumeric

namespace Concord.EnvFile

/-- What the next character of a value belongs to.  Where the state is reached
    from inside double quotes, it keeps that they are open. -/
inductive ValuePart where
  /-- Outside of quotes, or within double quotes. -/
  | plain (quoted : Bool)
  /-- Within single quotes. -/
  | single
  /-- After a backslash. -/
  | escape (quoted : Bool)
  /-- After a dollar, with the name read so far. -/
  | name (quoted : Bool) (read : List Char)
  /-- After a dollar and a brace, with the name read so far. -/
  | braced (quoted : Bool) (read : List Char)
  /-- After the blank that ends the value. -/
  | ended
  /-- Within the comment after the value. -/
  | comment
  deriving DecidableEq, Repr

/-- A value read so far. -/
structure ValueState where
  text : List Char
  part : ValuePart

namespace ValueState

/-- The value before its first character. -/
def empty : ValueState := ⟨[], .plain false⟩

/-- A value with more text. -/
def add (s : ValueState) (more : List Char) (part : ValuePart) : ValueState := ⟨s.text ++ more, part⟩

/-- What a character outside of single quotes, names and escapes makes of a
    value. -/
def nextPlain (s : ValueState) (quoted : Bool) (c : Char) : ValueState :=
  if c = '$' then { s with part := .name quoted [] }
  else if c = '"' then { s with part := .plain (!quoted) }
  else if c = '\\' then { s with part := .escape quoted }
  else if quoted then s.add [c] (.plain true)
  else if c = '\'' then { s with part := .single }
  else if c = ' ' ∨ c = '\t' then { s with part := .ended }
  else s.add [c] (.plain false)

/-- What the character after a bare name makes of a value: it belongs to the
    value, unless it starts another name. -/
def afterName (s : ValueState) (quoted : Bool) (value : List Char) (c : Char) : ValueState :=
  if c = '$' then s.add value (.name quoted []) else s.add (value ++ [c]) (.plain quoted)

/-- The value after a character, if it may stand there. -/
def next (lookup : List Char → List Char) (s : ValueState) (c : Char) : Option ValueState :=
  match s.part with
  | .plain quoted => some (s.nextPlain quoted c)
  | .single => some (if c = '\'' then { s with part := .plain false } else s.add [c] .single)
  | .escape quoted =>
    if c = 'n' then some (s.add ['\n'] (.plain quoted))
    else if c ∈ ['\\', '\'', '"', '$', ' '] then some (s.add [c] (.plain quoted))
    else none
  | .name quoted read =>
    if Text.isAlphanumeric c then some { s with part := .name quoted (read ++ [c]) }
    else if c = '{' ∧ read = [] then some { s with part := .braced quoted [] }
    else some (s.afterName quoted (lookup read) c)
  | .braced quoted read =>
    if c = '\x7d' then some (s.add (lookup read) (.plain quoted))
    else some { s with part := .braced quoted (read ++ [c]) }
  | .ended =>
    if c = ' ' ∨ c = '\t' then some s
    else if c = '#' then some { s with part := .comment }
    else none
  | .comment => some s

/-- The value at the end of the line, if nothing is left open. -/
def finish? (lookup : List Char → List Char) (s : ValueState) : Option (List Char) :=
  match s.part with
  | .single | .braced .. | .plain true | .escape true | .name true _ => none
  | .name false read => some (s.text ++ lookup read)
  | .plain false | .escape false | .ended | .comment => some s.text

/-- The value after more characters, or the place of the one that may not stand
    there. -/
def run (lookup : List Char → List Char) : ValueState → Nat → List Char → Except Nat ValueState
  | s, _, [] => .ok s
  | s, i, c :: r =>
    match s.next lookup c with
    | some s => run lookup s (i + 1) r
    | none => .error i

end ValueState

/-- The value of the rest of a line, with the values of the variables in it. -/
def readValue (lookup : List Char → List Char) (cs : List Char) :
    Except EnvFileError (List Char) :=
  let line := String.ofList cs
  match ValueState.empty.run lookup 0 cs with
  | .error i => .error (.malformed line i)
  | .ok s =>
    match s.finish? lookup with
    | some value => .ok value
    | none => .error (.malformed line (line.utf8ByteSize - 1))

end Concord.EnvFile
