/-
  The program: from the words of a command line to what it leaves behind.

  Nothing here acts on a machine.  The files, the environment and the network
  are values of a `Setting`, and an `Ending` says what to print, with which
  status to end, and which file was written.

  * `Program.perform`: an invocation in a setting.
  * `Program.run`: the words of a command line in a setting.
-/
import Concord.CommandLine
import Concord.Config.Files
import Concord.Config.Tokens
import Concord.Metrics
import Concord.Server.Http

namespace Concord

/-! ## Settings and endings -/

/-- Where the program runs, over the state `σ` of a network. -/
structure Setting (σ : Type) where
  files : FileTree
  /-- The path of the current directory. -/
  directory : String
  environment : Environment
  /-- Whether the output goes to a terminal. -/
  terminal : Bool
  transport : Transport σ
  network : σ
  stamp : RunStamp

/-- What the program leaves behind. -/
structure Ending where
  /-- What goes to the standard output. -/
  output : String
  /-- The lines that go to the standard error. -/
  messages : List String
  /-- The status with which the program ends. -/
  exitCode : Nat
  /-- The file that was written, by path and text. -/
  written : Option (String × String)
  log : List Log.Entry

namespace Program

/-- The name and the version of the program. -/
def version : String := "vault-converge 0.1.0"

/-- How the program is used. -/
def usage : List String :=
  ["Usage: vault-converge [OPTIONS] <COMMAND>", "", "Commands:",
    "  apply     Converge every instance on the configuration",
    "  plan      Show the changes an apply would make",
    "  validate  Validate the configuration without contacting any instance", "", "Options:",
    "  -c, --config <CONFIG>  Path to the configuration file", "  -v, --verbose          Verbose output",
    "      --log-json         Logs as JSON lines", "      --output <OUTPUT>  text or json",
    "  -h, --help             Print help", "  -V, --version          Print version"]

/-- The ending of a program that prints some output. -/
def printed (lines : List String) : Ending :=
  ⟨String.join (lines.map (· ++ "\n")), [], 0, none, []⟩

/-- The ending of a program that fails. -/
def failed (e : Error) : Ending :=
  ⟨"", ["Error: " ++ e.message], 1, none, [⟨.error, e.message, []⟩]⟩

/-- The ending of a program whose words make no sense. -/
def refused : Refusal → Ending
  | .help => printed usage
  | .version => printed [version]
  | r => ⟨"", usage.take 1, r.exitCode, none, []⟩

/-- Whether output is coloured: a variable can force it, another can forbid it,
    otherwise a terminal gets colours unless a third one says no. -/
def colours (env : Environment) (terminal : Bool) : Bool :=
  let forced := (env.get? "CLICOLOR_FORCE").any (· != "0")
  let welcome := terminal && env.get? "CLICOLOR" != some "0" && !env.contains "NO_COLOR"
  forced || welcome

/-! ## Commands -/

variable {σ : Type}

/-- The document at a path with its warnings. -/
def accepted (files : FileTree) (path : String) : Except ConfigError (Config × List String) := do
  let c ← Config.ofFile files path
  return (c, ← c.validate)

/-- Checks the document at a path.  Only here nothing of the environment is
    needed, so no file of variables is read. -/
def validate (s : Setting σ) (output : OutputFormat) (path : String) : Ending :=
  match accepted s.files path with
  | .error e => failed (.config e)
  | .ok (c, warnings) =>
    printed [Report.validationOutput output (colours s.environment s.terminal) c warnings]

/-- A run over all kinds of a document, with its log. -/
def converge (s : Setting σ) (c : Config) (tokens : Dict String) (dryRun : Bool)
    (poolSize : Nat) : RunReport × List Log.Entry :=
  let ctx : Context σ := ⟨Http.server tokens s.transport, dryRun, poolSize, []⟩
  let world : World σ := ⟨s.network, Registry.ofAddresses c.addresses, [], []⟩
  let (report, world) := (Run.perform ctx c Run.everyKind s.stamp).run world
  (report, world.log)

/-- The ending of a run; a file of metrics is written before anything is
    printed. -/
def reported (s : Setting σ) (env : Environment) (output : OutputFormat)
    (metricsFile : Option String) (report : RunReport) (log : List Log.Entry) : Ending :=
  let written := metricsFile.map fun path => (path, (Metrics.empty.recordRun report).encode)
  let problem : Option FileError := written.bind fun (path, text) =>
    match s.files.write path text with
    | .ok _ => none
    | .error e => some e
  match problem with
  | some e => failed (.file e.message)
  | none =>
    { output := Report.runOutput output (colours env s.terminal) report ++ "\n"
      messages := ["", report.summary]
      exitCode := if report.success then 0 else 1
      written := written
      log := log }

/-- Brings every instance in line with the document at a path, or shows what
    that would change. -/
def apply (s : Setting σ) (output : OutputFormat) (path : String) (dryRun : Bool)
    (poolSize : Nat) (metricsFile : Option String) : Ending :=
  let directory := (FilePath.parent? path).getD "."
  match Environment.ofFile s.files directory s.environment with
  | (_, some e) => failed (.config e)
  | (env, none) =>
    match accepted s.files path with
    | .error e => failed (.config e)
    | .ok (c, warnings) =>
      match c.tokens env.lookup? with
      | .error e => failed (.config e)
      | .ok tokens =>
        let (report, log) := converge s c tokens dryRun poolSize
        let notices := warnings.map fun w => (⟨.warn, w, []⟩ : Log.Entry)
        reported s env output metricsFile report (notices ++ log)

/-! ## Invocations -/

/-- An invocation in a setting.  A document that is not named is searched from
    the current directory on. -/
def perform (s : Setting σ) (i : Invocation) : Ending :=
  let found : Except ConfigError String :=
    match i.config with
    | some path => .ok path
    | none => Config.nearest? s.files.pathExists s.directory
  match found with
  | .error e => failed (.config e)
  | .ok path =>
    match i.command with
    | .validate => validate s i.output path
    | .plan size => apply s i.output path true size none
    | .apply dryRun size metricsFile => apply s i.output path dryRun size metricsFile

/-- The words of a command line in a setting. -/
def run (s : Setting σ) (words : List String) : Ending :=
  match CommandLine.parse s.environment words with
  | .error r => refused r
  | .ok i => perform s i

/-! ## Logs -/

/-- The value of a field of a log entry. -/
def fieldJson : Log.Value → Json
  | .text s => .str s
  | .count n => .int n
  | .flag b => .bool b

/-- A log entry as a line. -/
def logLine (json : Bool) (e : Log.Entry) : String :=
  if json then
    (Json.obj [("level", .str e.level.name), ("message", .str e.message),
      ("fields", .obj (e.fields.map fun (k, v) => (k, fieldJson v)))]).compact
  else
    let fields := e.fields.map fun (k, v) => k ++ "=" ++ (fieldJson v).compact
    " ".intercalate ([e.level.name, e.message] ++ fields)

/-- The log of an ending as lines; details only if they are wanted. -/
def logLines (verbose json : Bool) (log : List Log.Entry) : List String :=
  let shown := log.filter fun e => e.level.isOperational || (verbose && e.level = .debug)
  shown.map (logLine json)

end Program

end Concord
