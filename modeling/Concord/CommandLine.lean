/-
  The command line.

  It has two levels: arguments before the command, and the command with the
  arguments behind it.  Some arguments are accepted on both levels; what stands
  behind the command wins.  A value that an argument takes is checked when the
  next argument is recognized, or at the end of its level.

  * `CommandLine.parse`: the invocation that words stand for, or why there is
    none.  The environment gives what the words leave open.
  * `CommandLine.readWords`: the words of one level.
-/
import Concord.EnvFile.Basic
import Concord.Report

namespace Concord

/-- What is to be done. -/
inductive Command where
  /-- Bring every instance in line with the document. -/
  | apply (dryRun : Bool) (poolSize : Nat) (metricsFile : Option String)
  /-- Show what an apply would change. -/
  | plan (poolSize : Nat)
  /-- Check the document only. -/
  | validate
  deriving DecidableEq, Repr

/-- A command with what is common to all commands. -/
structure Invocation where
  /-- The path of the document, if one is named. -/
  config : Option String
  verbose : Bool
  logJson : Bool
  output : OutputFormat
  command : Command
  deriving DecidableEq, Repr

/-- Why words lead to no command. -/
inductive Refusal where
  /-- Help is asked for. -/
  | help
  /-- The version is asked for. -/
  | version
  /-- There are no words at all. -/
  | nothingGiven
  | missingCommand
  | unknownCommand
  | unknownArgument
  /-- An argument is given twice on one level. -/
  | repeatedArgument
  /-- A value is missing, empty or none of the choices. -/
  | invalidValue
  /-- A value is no number, or out of range. -/
  | invalidNumber
  /-- A value is given to an argument that takes none. -/
  | unwantedValue
  deriving DecidableEq, Repr

/-- The status with which the program ends; to ask for help is no failure. -/
def Refusal.exitCode : Refusal → Nat
  | help | version => 0
  | _ => 2

namespace CommandLine

/-! ## Arguments -/

/-- An argument. -/
inductive Argument where
  | config | verbose | logJson | output | dryRun | poolSize | metricsFile | help | version
  deriving DecidableEq, Repr

namespace Argument

/-- The name behind two hyphens. -/
def longName : Argument → String
  | config => "config"
  | verbose => "verbose"
  | logJson => "log-json"
  | output => "output"
  | dryRun => "dry-run"
  | poolSize => "thread-pool-size"
  | metricsFile => "metrics-file"
  | help => "help"
  | version => "version"

/-- The letter behind one hyphen. -/
def letter? : Argument → Option Char
  | config => some 'c'
  | verbose => some 'v'
  | help => some 'h'
  | version => some 'V'
  | _ => none

/-- Whether an argument takes a value. -/
def takesValue : Argument → Bool
  | config | output | poolSize | metricsFile => true
  | _ => false

end Argument

/-- The format that a word names. -/
def format? : String → Option OutputFormat
  | "text" => some .text
  | "json" => some .json
  | _ => none

/-- The largest size of a pool. -/
def poolLimit : Nat := 4294967295

/-- The size of a pool when none is given. -/
def defaultPoolSize : Nat := 10

/-- The size of a pool: decimal digits, perhaps behind a plus. -/
def poolSize? (s : String) : Option Nat :=
  let digits :=
    match s.toList with
    | '+' :: r => r
    | cs => cs
  if digits.isEmpty ∨ !digits.all Char.isDigit then none
  else
    let n := digits.foldl (fun n c => 10 * n + (c.toNat - '0'.toNat)) 0
    if 1 ≤ n ∧ n ≤ poolLimit then some n else none

/-- What is wrong with the value of an argument, if anything is. -/
def Argument.problem? : Argument → String → Option Refusal
  | config, value | metricsFile, value => if value.isEmpty then some .invalidValue else none
  | output, value => if (format? value).isSome then none else some .invalidValue
  | poolSize, value => if (poolSize? value).isSome then none else some .invalidNumber
  | _, _ => none

/-! ## Levels -/

/-- The commands. -/
inductive CommandName where
  | apply | plan | validate
  deriving DecidableEq, Repr

/-- The command that a word names. -/
def CommandName.ofWord? : String → Option CommandName
  | "apply" => some apply
  | "plan" => some plan
  | "validate" => some validate
  | _ => none

/-- Where words stand: before the command, or behind it. -/
inductive Level where
  | top
  | under (command : CommandName)
  deriving DecidableEq, Repr

/-- The arguments that a command has for itself. -/
def CommandName.own : CommandName → List Argument
  | apply => [.dryRun, .poolSize, .metricsFile]
  | plan => [.poolSize]
  | validate => []

/-- The arguments that are accepted on every level. -/
def shared : List Argument := [.config, .verbose, .logJson, .output, .help, .version]

/-- The arguments that a level accepts. -/
def Level.accepted : Level → List Argument
  | top => shared
  | under command => command.own ++ shared

/-! ## Words -/

/-- What has been read on a level. -/
structure Reading where
  /-- The arguments with their values; empty for those that take none. -/
  given : List (Argument × String)
  /-- An argument whose value has not been checked, or not been read. -/
  waiting : Option (Argument × Option String)

namespace Reading

/-- Nothing has been read. -/
def empty : Reading := ⟨[], none⟩

/-- The value of an argument. -/
def value? (r : Reading) (a : Argument) : Option String := r.given.lookup a

/-- Whether an argument is given. -/
def has (r : Reading) (a : Argument) : Bool := (r.value? a).isSome

/-- Whether the next word is a value. -/
def awaitsValue (r : Reading) : Bool :=
  match r.waiting with
  | some (_, none) => true
  | _ => false

/-- An argument with its value. -/
def give (r : Reading) (a : Argument) (value : String) : Except Refusal Reading :=
  if r.has a then .error .repeatedArgument
  else
    match a.problem? value with
    | some refusal => .error refusal
    | none => .ok { r with given := r.given ++ [(a, value)] }

/-- The value that waits is checked. -/
def settle (r : Reading) : Except Refusal Reading :=
  match r.waiting with
  | none => .ok r
  | some (_, none) => .error .invalidValue
  | some (a, some value) => { r with waiting := none }.give a value

/-- An argument that is recognized, with the value that is attached to it. -/
def recognize (r : Reading) (a : Argument) (attached : Option String) :
    Except Refusal Reading := do
  match a, attached with
  | .help, none => do
    let _ ← r.settle
    .error .help
  | .version, none => do
    let _ ← r.settle
    .error .version
  | a, none =>
    let r ← r.settle
    if a.takesValue then .ok { r with waiting := some (a, none) } else r.give a ""
  | a, some value =>
    if a.takesValue then (← r.settle).give a value else .error .unwantedValue

end Reading

/-- What stands behind two hyphens: a name, and a value behind an equals
    sign. -/
def longParts (cs : List Char) : String × Option String :=
  let name := String.ofList (cs.takeWhile (· != '='))
  match cs.dropWhile (· != '=') with
  | [] => (name, none)
  | _ :: value => (name, some (String.ofList value))

/-- What stands behind one hyphen: letters, the last of which may have a value
    behind it. -/
def readLetters (level : Level) (r : Reading) : List Char → Except Refusal Reading
  | [] => .ok r
  | c :: rest =>
    match level.accepted.find? fun a => a.letter? = some c with
    | none => .error .unknownArgument
    | some a =>
      if a.takesValue then
        match rest with
        | [] => r.recognize a none
        | '=' :: value => r.recognize a (some (String.ofList value))
        | value => r.recognize a (some (String.ofList value))
      else do readLetters level (← r.recognize a none) rest

/-- Why a word that is neither an argument nor a value cannot stand on a level.
    Two hyphens before it keep it from being a command. -/
def unexpected (level : Level) (afterHyphens : Bool) (word : String) : Refusal :=
  match level with
  | .under _ => .unknownArgument
  | .top =>
    if afterHyphens ∧ (word = "help" ∨ (CommandName.ofWord? word).isSome) then .unknownArgument
    else .unknownCommand

/-- What is answered to a request for help on some words: only commands have
    help. -/
def helpOn : List String → Refusal
  | [] => .help
  | [word] =>
    if word = "help" ∨ (CommandName.ofWord? word).isSome then .help else .unknownCommand
  | _ => .unknownCommand

/-- The words of a level; what is read is the level itself and the words behind
    the command, if there is one. -/
def readWords (level : Level) (r : Reading) :
    List String → Except Refusal (Reading × Option (CommandName × List String))
  | [] => .ok (r, none)
  | word :: rest =>
    let command := if level = .top ∧ !r.awaitsValue then CommandName.ofWord? word else none
    match command, word.toList with
    | some command, _ => .ok (r, some (command, rest))
    | none, ['-', '-'] =>
      match rest with
      | [] => .ok (r, none)
      | word :: _ => .error (unexpected level true word)
    | none, '-' :: '-' :: cs =>
      let (name, attached) := longParts cs
      match level.accepted.find? fun a => a.longName = name with
      | none => .error .unknownArgument
      | some a => do readWords level (← r.recognize a attached) rest
    | none, '-' :: c :: cs => do readWords level (← readLetters level r (c :: cs)) rest
    | none, _ =>
      match r.waiting with
      | some (a, none) => readWords level { r with waiting := some (a, some word) } rest
      | _ =>
        if level = .top ∧ word = "help" then .error (helpOn rest)
        else .error (unexpected level false word)

/-! ## Environment -/

/-- The variable that gives a value to an argument. -/
def Argument.variable? : Argument → Option String
  | config => some "VAULT_CONVERGE_CONFIG"
  | poolSize => some "VAULT_CONVERGE_THREAD_POOL_SIZE"
  | _ => none

/-- What the environment says of an argument. -/
def fromEnvironment (env : Environment) (a : Argument) : Option String := do
  env.get? (← a.variable?)

/-- The first problem of the environment with arguments that are not given. -/
def environmentProblem? (env : Environment) (level : Level) (r : Reading) : Option Refusal :=
  level.accepted.findSome? fun a =>
    if r.has a then none else do a.problem? (← fromEnvironment env a)

/-- A level that has been read is complete: what waits is checked, and what the
    environment says. -/
def complete (env : Environment) (level : Level) (r : Reading) : Except Refusal Reading := do
  let r ← r.settle
  match environmentProblem? env level r with
  | some refusal => .error refusal
  | none => .ok r

/-! ## Invocations -/

/-- The command that a complete level stands for. -/
def command (env : Environment) (name : CommandName) (r : Reading) : Command :=
  let size := ((r.value? .poolSize).or (fromEnvironment env .poolSize)).bind poolSize?
  let size := size.getD defaultPoolSize
  match name with
  | .apply => .apply (r.has .dryRun) size (r.value? .metricsFile)
  | .plan => .plan size
  | .validate => .validate

/-- The invocation that two complete levels stand for; the second one wins. -/
def invocation (env : Environment) (name : CommandName) (top under : Reading) : Invocation where
  config := ((under.value? .config).or (top.value? .config)).or (fromEnvironment env .config)
  verbose := top.has .verbose || under.has .verbose
  logJson := top.has .logJson || under.has .logJson
  output := (((under.value? .output).or (top.value? .output)).bind format?).getD .text
  command := command env name under

/-- Whether anything is given on the top level, by words or by the
    environment. -/
def givesAnything (env : Environment) (r : Reading) : Bool :=
  !r.given.isEmpty || (fromEnvironment env .config).isSome

/-- The invocation that words stand for.  What stands behind the command is
    read completely before the level above is checked. -/
def parse (env : Environment) (words : List String) : Except Refusal Invocation := do
  match ← readWords .top .empty words with
  | (r, none) =>
    let r ← complete env .top r
    .error (if givesAnything env r then .missingCommand else .nothingGiven)
  | (r, some (name, rest)) =>
    let (below, _) ← readWords (.under name) .empty rest
    let below ← complete env (.under name) below
    let r ← complete env .top r
    .ok (invocation env name r below)

end CommandLine

end Concord
