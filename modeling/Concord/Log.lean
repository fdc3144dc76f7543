/-
  Log entries.

  The engine records what happens as a list of entries, oldest first.  An
  entry has a level, a message and named fields; how it is shown is decided
  elsewhere.
-/

namespace Concord.Log

/-- How important an entry is, the most important first. -/
inductive Level where
  | error | warn | info | debug | trace
  deriving DecidableEq, Repr

/-- The name of a level. -/
def Level.name : Level → String
  | error => "ERROR"
  | warn => "WARN"
  | info => "INFO"
  | debug => "DEBUG"
  | trace => "TRACE"

/-- Whether entries of a level are of interest to an operator. -/
def Level.isOperational : Level → Bool
  | error | warn | info => true
  | debug | trace => false

/-- The value of a field. -/
inductive Value where
  | text (s : String)
  | count (n : Nat)
  | flag (b : Bool)
  deriving DecidableEq, Repr

/-- An entry of the log. -/
structure Entry where
  level : Level
  message : String
  fields : List (String × Value)
  deriving DecidableEq, Repr

end Concord.Log
