/-
  What can go wrong, as causes, and the sentence that reports each.

  * `ConfigError`: the document cannot be found, read or accepted; fatal for a
    whole run.
  * `ServerError`: a call to an instance failed.
  * `EngineError`: the engine itself cannot do its work.
  * `Error` unites them; `Error.message` is the sentence shown to the operator.
-/

namespace Concord

/-- Why a configuration document is not usable. -/
inductive ConfigError where
  /-- There is no file at the path. -/
  | fileNotFound (path : String)
  /-- The file or its text cannot be read; the location is the file. -/
  | unreadable (message : String) (location : Option String)
  /-- The text is not one document of the markup at all. -/
  | malformed (location : Option String)
  /-- A rule of the document is broken by a field. -/
  | invalid (message : String) (field : Option String)
  /-- A variable of the environment has no value. -/
  | missingVariable (name : String)
  /-- Two objects of a kind have one key on one instance. -/
  | duplicateKey (kind address key : String)
  /-- An object belongs to an instance that is not listed. -/
  | unknownInstance (kind key address : String)
  deriving DecidableEq, Repr

/-- Why a call to an instance failed. -/
inductive ServerError where
  /-- The token was rejected, or there is none. -/
  | unauthorized (address message : String)
  /-- The instance answered with a status that is no success. -/
  | rejected (address : String) (status : Nat) (message : String)
  /-- No answer was received. -/
  | unreachable (address message : String)
  /-- The answer cannot be understood. -/
  | invalidResponse (address message : String)
  deriving DecidableEq, Repr

/-- Why the engine cannot do its work. -/
inductive EngineError where
  /-- A worker pool of this size cannot exist. -/
  | invalidPoolSize (size : Nat)
  /-- The slots of a worker pool are gone. -/
  | poolClosed
  /-- A unit of work ended without a result. -/
  | workerPanicked (message : String)
  deriving DecidableEq, Repr

/-- Any failure. -/
inductive Error where
  | config (cause : ConfigError)
  | server (cause : ServerError)
  | engine (cause : EngineError)
  | metrics (message : String)
  | file (message : String)
  | internal (message : String)
  deriving DecidableEq, Repr

/-! ## Sentences -/

/-- The sentence of a configuration error. -/
def ConfigError.message : ConfigError → String
  | fileNotFound path => s!"Configuration file not found: {path}"
  | unreadable message _ => s!"Failed to parse configuration: {message}"
  | malformed _ => "Failed to parse configuration: YAML parse error"
  | invalid message _ => s!"Configuration validation failed: {message}"
  | missingVariable name => s!"Missing environment variable: {name}"
  | duplicateKey kind address key => s!"Duplicate {kind} '{key}' for instance {address}"
  | unknownInstance kind key address => s!"{kind} '{key}' references unknown instance {address}"

/-- The sentence of a failed call. -/
def ServerError.message : ServerError → String
  | unauthorized address message => s!"Vault authentication failed for {address}: {message}"
  | rejected address status message => s!"Vault request to {address} failed: {status} - {message}"
  | unreachable address message => s!"Network error communicating with {address}: {message}"
  | invalidResponse address message => s!"Invalid response from {address}: {message}"

/-- The sentence of an engine error. -/
def EngineError.message : EngineError → String
  | invalidPoolSize size => s!"Invalid worker pool size: {size} (must be at least 1)"
  | poolClosed => "Worker pool closed while work was outstanding"
  | workerPanicked message => s!"Worker task failed: {message}"

/-- The sentence of a failure. -/
def Error.message : Error → String
  | config cause => "Configuration error: " ++ cause.message
  | server cause => "Vault API error: " ++ cause.message
  | engine cause => "Reconciliation error: " ++ cause.message
  | metrics message => "Metrics error: " ++ message
  | file message => "IO error: " ++ message
  | internal message => "Internal error: " ++ message

end Concord
