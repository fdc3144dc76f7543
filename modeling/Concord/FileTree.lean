/-
  Trees of files and directories.

  A tree is a value: a directory in which relative paths start, and what stands
  at some places.  Every place above another is a directory.

  * `FileTree.locate`: the place that a path leads to.
  * `FileTree.pathExists`, `FileTree.readText`, `FileTree.readBytes`,
    `FileTree.write`.
-/

namespace Concord

/-- Why a file cannot be read or written. -/
inductive FileError where
  /-- Nothing stands at the place. -/
  | notFound
  /-- A directory stands where a file is wanted. -/
  | isDirectory
  /-- A file stands where a directory is wanted. -/
  | notDirectory
  /-- The bytes of the file are no text. -/
  | notText
  deriving DecidableEq, Repr

/-- The sentence for a failed access. -/
def FileError.message : FileError → String
  | notFound => "No such file or directory (os error 2)"
  | isDirectory => "Is a directory (os error 21)"
  | notDirectory => "Not a directory (os error 20)"
  | notText => "stream did not contain valid UTF-8"

/-- What stands at a place. -/
inductive FileNode where
  | file (content : ByteArray)
  | directory

/-- Files and directories by their place, which is a list of names from the
    root. -/
structure FileTree where
  /-- The directory in which relative paths start. -/
  current : List String
  nodes : List (List String × FileNode)

namespace FileTree

/-- What stands at a place; what contains something is a directory. -/
def node? (t : FileTree) (place : List String) : Option FileNode :=
  match t.nodes.lookup place with
  | some n => some n
  | none =>
    if place.isPrefixOf t.current || t.nodes.any fun e => place.isPrefixOf e.1 then
      some .directory
    else none

/-- The names of a path between its slashes. -/
def names (path : String) : List String := path.splitOn "/"

/-- The place from which a path starts. -/
def start (t : FileTree) (path : String) : List String :=
  if path.startsWith "/" then [] else t.current

/-- The place that names lead to from a place; all on the way are directories. -/
def walk (t : FileTree) (place : List String) : List String → Except FileError (List String)
  | [] => .ok place
  | name :: r =>
    match t.node? place with
    | none => .error .notFound
    | some (.file _) => .error .notDirectory
    | some .directory =>
      if name = "" ∨ name = "." then walk t place r
      else if name = ".." then walk t place.dropLast r
      else walk t (place ++ [name]) r

/-- What a path leads to. -/
def locate (t : FileTree) (path : String) : Except FileError FileNode :=
  if path.isEmpty then .error .notFound
  else
    match t.walk (t.start path) (names path) with
    | .error e => .error e
    | .ok place =>
      match t.node? place with
      | some n => .ok n
      | none => .error .notFound

/-- Whether a path leads to a file or a directory. -/
def pathExists (t : FileTree) (path : String) : Bool := (t.locate path).isOk

/-- The bytes of a file. -/
def readBytes (t : FileTree) (path : String) : Except FileError ByteArray := do
  match ← t.locate path with
  | .file content => .ok content
  | .directory => .error .isDirectory

/-- The text of a file. -/
def readText (t : FileTree) (path : String) : Except FileError String := do
  match String.fromUTF8? (← t.readBytes path) with
  | some text => .ok text
  | none => .error .notText

/-- Puts a file at a place. -/
def put (t : FileTree) (place : List String) (content : ByteArray) : FileTree :=
  { t with nodes := (place, .file content) :: t.nodes.filter fun e => e.1 ≠ place }

/-- Writes a text to a file, which need not exist; its directory must.  A path
    that ends in a slash or in dots can only be a directory. -/
def write (t : FileTree) (path text : String) : Except FileError FileTree :=
  let parts := names path
  let body := (parts.reverse.dropWhile String.isEmpty).reverse
  match body.getLast? with
  | none => .error (if path.isEmpty then .notFound else .isDirectory)
  | some name =>
    match t.walk (t.start path) (body.dropLast ++ [""]) with
    | .error e => .error e
    | .ok place =>
      let target := place ++ [name]
      if name = "." ∨ name = ".." ∨ body.length < parts.length then .error .isDirectory
      else
        match t.node? target with
        | some .directory => .error .isDirectory
        | _ => .ok (t.put target text.toUTF8)

end FileTree

end Concord
