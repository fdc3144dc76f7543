/-
  The program on a machine.

  The files that an invocation can touch are read first; then the program runs
  on these values, and what it leaves behind is printed and written.  Requests
  are not carried: for this build every instance is out of reach.
-/
import Std.Time.DateTime.Timestamp
import Concord.Program
import Concord.RunId

namespace Concord.Main

/-- What stands at a path of the machine. -/
def probe (path : String) : IO (Option FileNode) := do
  let place := (← IO.currentDir) / path
  if ← place.isDir then return some .directory
  try
    return some (.file (← IO.FS.readBinFile place))
  catch _ => return none

/-- The paths that an invocation can touch. -/
def touched (directory : String) (i : Invocation) : List String :=
  let documents := i.config.elim (Config.candidates directory) ([·])
  let environments := documents.map fun p =>
    FilePath.join ((FilePath.parent? p).getD ".") ".env"
  let metrics :=
    match i.command with
    | .apply _ _ (some path) => [path, (FilePath.parent? path).getD "."]
    | _ => []
  documents ++ environments ++ metrics

/-- The names of a path from the root, with dots resolved by name. -/
def placeOf (directory path : String) : List String :=
  (FileTree.names (FilePath.join directory path)).foldl
    (fun place name =>
      if name = "" ∨ name = "." then place
      else if name = ".." then place.dropLast
      else place ++ [name]) []

/-- What stands at some paths of the machine, as a tree. -/
def snapshot (directory : String) (paths : List String) : IO FileTree := do
  let nodes ← paths.filterMapM fun path => do
    return (← probe path).map fun node => (placeOf directory path, node)
  return { current := placeOf directory "", nodes := nodes }

/-- The variables of this process. -/
def environment : IO Environment := do
  try
    let bytes ← IO.FS.readBinFile "/proc/self/environ"
    let entries := ((String.fromUTF8? bytes).getD "").splitOn "\x00"
    return Dict.ofList (entries.filterMap fun entry =>
      match entry.splitOn "=" with
      | name :: value :: more => some (name, "=".intercalate (value :: more))
      | _ => none)
  catch _ => return Dict.empty

/-- A name for a run that no other run has. -/
def freshRunId : IO String := do
  return RunId.ofBytes (← IO.getRandomBytes 16).toList

/-- The identity of a run that starts now.  Nothing leaves the machine, so it
    is over at once. -/
def stamp : IO RunStamp := do
  let now ← Std.Time.Timestamp.now
  let nanoseconds := now.toNanosecondsSinceUnixEpoch.val
  let startedAt : Timestamp := ⟨nanoseconds / 1000000000, (nanoseconds % 1000000000).toNat⟩
  return ⟨← freshRunId, startedAt, Decimal.zero false⟩

/-- Prints and writes what the program leaves behind. -/
def deliver (verbose json : Bool) (e : Ending) : IO UInt32 := do
  let err ← IO.getStderr
  for line in Program.logLines verbose json e.log do err.putStrLn line
  try
    if let some (path, text) := e.written then IO.FS.writeFile path text
    IO.print e.output
    for line in e.messages do err.putStrLn line
    return e.exitCode.toUInt32
  catch problem =>
    err.putStrLn ("Error: " ++ (Error.file (toString problem)).message)
    return 1

/-- Runs the program with some words. -/
def run (words : List String) : IO UInt32 := do
  let env ← environment
  let directory := (← IO.currentDir).toString
  let invocation := CommandLine.parse env words
  let files ← snapshot directory ((invocation.toOption.map (touched directory)).getD [])
  let setting : Setting Unit :=
    { files := files
      directory := directory
      environment := env
      terminal := ← (← IO.getStdout).isTty
      transport := Transport.offline
      network := ()
      stamp := ← stamp }
  let verbose := (invocation.toOption.map (·.verbose)).getD false
  let json := (invocation.toOption.map (·.logJson)).getD false
  deliver verbose json (Program.run setting words)

end Concord.Main

/-- The command line of the program. -/
def main (words : List String) : IO UInt32 := Concord.Main.run words
