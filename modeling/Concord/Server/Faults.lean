/-
  Faults: a server in front of another that fails calls on purpose.

  * `Fault.matches`: the calls that a fault concerns.
  * `Faulty.server`: the first fault that concerns a call fails it, and the
    server behind is not reached; a fault with a limit is used up.  Listings of
    policies may be replaced by given ones.
-/
import Concord.Server.Basic

namespace Concord

/-- How a fault fails a call. -/
inductive FaultKind where
  | rejected (status : Nat)
  | unreachable
  | unauthorized
  | invalidResponse
  deriving DecidableEq

/-- A failure of calls; what is not given matches any call. -/
structure Fault where
  /-- The name of the operation. -/
  operation : Option String
  address : Option String
  key : Option String
  kind : FaultKind
  message : String
  /-- How often the fault still fires; without a limit, always. -/
  remaining : Option Nat
  deriving DecidableEq

namespace Fault

/-- Whether a fault concerns a call. -/
def concerns (f : Fault) (c : Call) : Bool :=
  f.operation.all (· == c.operation.name) && f.address.all (· == c.address) &&
    f.key.all fun k => c.operation.key? == some k

/-- The error that a fault gives. -/
def error (f : Fault) (address : String) : ServerError :=
  match f.kind with
  | .rejected status => .rejected address status f.message
  | .unreachable => .unreachable address f.message
  | .unauthorized => .unauthorized address f.message
  | .invalidResponse => .invalidResponse address f.message

/-- The fault that fires on a call, and the faults after it has. -/
def fire (c : Call) : List Fault → Option Fault × List Fault
  | [] => (none, [])
  | f :: r =>
    if f.concerns c then
      match f.remaining with
      | none => (some f, f :: r)
      | some n => if n ≤ 1 then (some f, r) else (some f, { f with remaining := some (n - 1) } :: r)
    else
      let (fired, rest) := fire c r
      (fired, f :: rest)

end Fault

/-- A server's state behind faults. -/
structure Faulty (σ : Type) where
  /-- The state of the server behind. -/
  inner : σ
  faults : List Fault
  /-- The policies that an address lists instead of its own. -/
  listings : Dict (List String)

namespace Faulty

variable {σ : Type}

/-- The answer to a query with a given listing in its place. -/
def relisted (listing : Option (List String)) : (q : Query) → q.Answer → q.Answer
  | .listPolicies, names => listing.getD names
  | .readPolicy _, rules => rules
  | .listEngines, mounts => mounts
  | .listAudits, audits => audits

/-- A server with faults in front of it. -/
def server (behind : Server σ) : Server (Faulty σ) where
  ask address q s :=
    match Fault.fire ⟨address, .query q⟩ s.faults with
    | (some f, faults) => (.error (f.error address), { s with faults := faults })
    | (none, _) =>
      let (answer, inner) := behind.ask address q s.inner
      (answer.map (relisted (s.listings.get? address) q), { s with inner := inner })
  change address m s :=
    match Fault.fire ⟨address, .mutation m⟩ s.faults with
    | (some f, faults) => (.error (f.error address), { s with faults := faults })
    | (none, _) =>
      let (done, inner) := behind.change address m s.inner
      (done, { s with inner := inner })

end Faulty

end Concord
