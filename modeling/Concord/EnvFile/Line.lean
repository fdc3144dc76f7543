/-
  The lines of a file of variables.

  A line of the file may go on below: while a quote is open, after a backslash,
  and after a blank at its end.  A number sign ends a line if a blank stands
  before it, and a line that starts with one is a comment.

  * `LineState.next`: what a character makes of the state of a line.
  * `joinLines`: the lines as they are read, each from one or more lines of the
    file, up to the first that cannot be read.
-/
import Concord.Text.Blank

namespace Concord.EnvFile

/-- Why a file of variables cannot be loaded. -/
inductive EnvFileError where
  /-- The file cannot be read; the sentence says why. -/
  | unreadable (reason : String)
  /-- A line, or the value in it, is malformed at a position. -/
  | malformed (line : String) (position : Nat)
  deriving DecidableEq, Repr

/-- The sentence of an error. -/
def EnvFileError.message : EnvFileError → String
  | unreadable reason => reason
  | malformed line position => s!"Error parsing line: '{line}', error at line index: {position}"

/-- How far a line has been read. -/
inductive LineState where
  /-- The line could end here. -/
  | complete
  /-- A blank was read, so a comment may start. -/
  | blank
  /-- A backslash was read. -/
  | escape
  /-- Within single quotes, perhaps after a backslash. -/
  | single (escaped : Bool)
  /-- Within double quotes, perhaps after a backslash. -/
  | double (escaped : Bool)
  deriving DecidableEq, Repr

namespace LineState

/-- The state outside of quotes after a character other than a blank. -/
def outside : Char → LineState
  | '\\' => escape
  | '"' => double false
  | '\'' => single false
  | _ => complete

/-- The state after a character. -/
def next : LineState → Char → LineState
  | complete, c => if Text.isBlank c && c != '\n' && c != '\r' then blank else outside c
  | blank, c => outside c
  | escape, _ => complete
  | single true, _ => single false
  | single false, c => if c = '\\' then single true else if c = '\'' then complete else single false
  | double true, _ => double false
  | double false, c => if c = '\\' then double true else if c = '"' then complete else double false

/-- The state after a line of the file; if a comment starts in it, there is no
    state but the text before the comment. -/
def scan : LineState → List Char → Except (List Char) LineState
  | s, [] => .ok s
  | s, c :: r =>
    if s = blank ∧ c = '#' then .error []
    else (scan (s.next c) r).mapError (c :: ·)

end LineState

/-- A line without the line break at its end. -/
def dropLineBreak (line : List Char) : List Char :=
  match line.reverse with
  | '\n' :: '\r' :: r => r.reverse
  | '\n' :: r => r.reverse
  | _ => line

/-- The lines of a file, given with their line breaks, as they are read: the
    text kept so far of a line that goes on, and its state. -/
def joinLines (state : LineState) (kept : List Char) :
    List (Option (List Char)) → List (Except EnvFileError (List Char))
  | [] =>
    if state = .complete then []
    else
      let line := String.ofList kept
      [.error (.malformed line line.utf8ByteSize)]
  | none :: _ => [.error (.unreadable "stream did not contain valid UTF-8")]
  | some line :: r =>
    let whole := kept ++ line
    if (whole.dropWhile Text.isBlank).head? = some '#' then .ok [] :: joinLines .complete [] r
    else
      match state.scan line with
      | .error before => .ok (kept ++ before) :: joinLines .complete [] r
      | .ok .complete => .ok (dropLineBreak whole) :: joinLines .complete [] r
      | .ok state => joinLines state whole r

end Concord.EnvFile
