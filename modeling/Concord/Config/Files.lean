/-
  Configuration documents in files.

  * `Config.nearest?`: the document to use when none is named, searched in a
    directory and then in each directory above it.
  * `Config.ofFile`: the document in a file.
  * `Environment.ofFile`: the environment with the variables of the file `.env`
    in a directory.
-/
import Concord.Config.Document
import Concord.EnvFile.Basic
import Concord.FilePath
import Concord.FileTree

namespace Concord

namespace Config

/-! ## Search -/

/-- The names that a document may have, in the order of preference. -/
def fileNames : List String := ["vault-converge.yaml", "vault-converge.yml", "vault.yaml"]

/-- The paths that a document may have, from the nearest directory on. -/
def candidates (start : String) : List String :=
  (FilePath.ancestors start).flatMap fun d => fileNames.map (FilePath.join d)

/-- The first of the paths that exists; the error names the most preferred one
    of the start directory. -/
def nearest? (pathExists : String → Bool) (start : String) : Except ConfigError String :=
  match (candidates start).find? pathExists with
  | some path => .ok path
  | none => .error (.fileNotFound (FilePath.join start "vault-converge.yaml"))

/-! ## Reading -/

/-- The document in the file at a path. -/
def ofFile (files : FileTree) (path : String) : Except ConfigError Config :=
  if files.pathExists path then
    match files.readText path with
    | .ok text => parse text (some path)
    | .error e => .error (.unreadable s!"Failed to read file: {e.message}" (some path))
  else .error (.fileNotFound path)

end Config

namespace Environment

/-- The environment with the variables of the file `.env` in a directory, and
    the error that ended it; there need not be a file. -/
def ofFile (files : FileTree) (directory : String) (env : Environment) :
    Environment × Option ConfigError :=
  let path := FilePath.join directory ".env"
  let failed := fun (reason : String) =>
    ConfigError.unreadable s!"Failed to load .env file: {reason}" (some path)
  if files.pathExists path then
    match files.readBytes path with
    | .error e => (env, some (failed e.message))
    | .ok content =>
      let (env, problem) := EnvFile.load env content
      (env, problem.map fun e => failed e.message)
  else (env, none)

end Environment

end Concord
