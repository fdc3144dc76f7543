/-
  The registry of instances: which of the configured instances may still be
  touched in the current run.

  * `markInvalid`, `reset`, `isValid`.
  * `valid` and `invalid` split the configured list, in its order.
  * `serve`: the same operations as requests of callers that share a registry.
-/
import Concord.Log

namespace Concord

/-- The configured instances and those marked invalid. -/
structure Registry where
  /-- Every configured address, in configured order. -/
  configured : List String
  /-- The addresses marked since the last reset, each once. -/
  marked : List String
  deriving DecidableEq, Repr

namespace Registry

/-- A registry in which every address is valid. -/
def ofAddresses (addresses : List String) : Registry := ⟨addresses, []⟩

/-- Whether an address has not been marked since the last reset. -/
def isValid (r : Registry) (address : String) : Bool := !r.marked.contains address

/-- The configured addresses that are valid. -/
def valid (r : Registry) : List String := r.configured.filter r.isValid

/-- The configured addresses that are not valid. -/
def invalid (r : Registry) : List String := r.configured.filter fun a => !r.isValid a

/-- Marks an address invalid. -/
def markInvalid (r : Registry) (address : String) : Registry :=
  if r.isValid address then { r with marked := r.marked ++ [address] } else r

/-- The log entry of a marking: only the first one of an address has it. -/
def markEntries (r : Registry) (address : String) : List Log.Entry :=
  if r.isValid address then
    [⟨.warn, "instance removed from reconciliation", [("instance", .text address)]⟩]
  else []

/-- Makes every address valid again. -/
def reset (r : Registry) : Registry := { r with marked := [] }

/-- The log entry of a reset, if there was anything to make valid. -/
def resetEntries (r : Registry) : List Log.Entry :=
  if r.marked.isEmpty then []
  else [⟨.info, "re-admitting invalid instances for new run", [("count", .count r.marked.length)]⟩]

/-! ## Requests -/

/-- What a caller asks of a shared registry. -/
inductive Request where
  | mark (address : String)
  | reset
  | isValid (address : String)
  | valid
  | invalid
  | configured
  deriving DecidableEq, Repr

/-- What a request is answered with. -/
inductive Reply where
  | done
  | flag (value : Bool)
  | addresses (list : List String)
  deriving DecidableEq, Repr

/-- The registry after a request, and the reply to it.  The reply to a marking
    is whether the address was not marked before. -/
def serve (r : Registry) : Request → Registry × Reply
  | .mark a => (r.markInvalid a, .flag (r.isValid a))
  | .reset => (r.reset, .done)
  | .isValid a => (r, .flag (r.isValid a))
  | .valid => (r, .addresses r.valid)
  | .invalid => (r, .addresses r.invalid)
  | .configured => (r, .addresses r.configured)

end Registry

end Concord
