/-
  Passes: one kind of object on every valid instance.

  On each instance the items are fetched, compared and planned; the plan is
  carried out, or only reported in a dry run.  An instance on which anything
  fails is marked invalid, so that later passes of the run skip it.

  * `Pass.onInstance`: a pass on one instance, with its `Outcome`.
  * `Pass.perform`: a pass on all instances, with its `KindReport`.
-/
import Concord.Kind.Basic

namespace Concord

/-- What came of a pass on one instance. -/
structure Outcome where
  /-- The address of the instance. -/
  address : String
  dryRun : Bool
  /-- The changes planned, in the order of execution. -/
  changes : List Change
  /-- How many of them were carried out. -/
  applied : Nat
  /-- How many items were in sync. -/
  unchanged : Nat
  /-- How many items were left although nobody wants them. -/
  spared : Nat
  /-- What took the instance out of the run, if anything did. -/
  error : Option String
  deriving DecidableEq, Repr

/-- What came of a pass on all instances. -/
structure KindReport where
  /-- The label of the kind. -/
  kind : String
  /-- The outcome on each instance that was attempted. -/
  outcomes : List Outcome
  /-- The instances that were not attempted. -/
  skipped : List String
  deriving DecidableEq, Repr

namespace Outcome

/-- The outcome on an instance whose items could not be fetched. -/
def unfetched (address : String) (dryRun : Bool) (e : Error) : Outcome :=
  ⟨address, dryRun, [], 0, 0, 0, some e.message⟩

/-- Whether nothing failed. -/
def succeeded (o : Outcome) : Bool := o.error.isNone

/-- How many changes of an action are planned. -/
def count (o : Outcome) (action : Action) : Nat := o.changes.countP fun c => c.action = action

/-- An outcome as a JSON object. -/
def toJson (o : Outcome) : Json :=
  .obj [("instance", .str o.address), ("dry_run", .bool o.dryRun),
    ("changes", .arr (o.changes.map Change.toJson)), ("applied", .int o.applied),
    ("unchanged", .int o.unchanged), ("protected", .int o.spared),
    ("error", match o.error with | some e => .str e | none => .null)]

end Outcome

namespace KindReport

/-- The instances on which something failed. -/
def failed (r : KindReport) : List String :=
  (r.outcomes.filter fun o => !o.succeeded).map (·.address)

/-- How many changes are planned on all instances. -/
def changeCount (r : KindReport) : Nat := r.outcomes.foldl (fun n o => n + o.changes.length) 0

/-- How many changes were carried out on all instances. -/
def appliedCount (r : KindReport) : Nat := r.outcomes.foldl (fun n o => n + o.applied) 0

/-- A report as a JSON object. -/
def toJson (r : KindReport) : Json :=
  .obj [("kind", .str r.kind), ("instances", .arr (r.outcomes.map Outcome.toJson)),
    ("skipped", Json.texts r.skipped)]

end KindReport

namespace Pass

variable {σ α : Type} [Item α]

/-! ## One instance -/

/-- Issues mutations in order, up to the first that fails. -/
def issue (server : Server σ) (address : String) :
    List Mutation → Session σ (Except ServerError Unit)
  | [] => return .ok ()
  | m :: r => do
    match ← Session.change server address m with
    | .error e => return .error e
    | .ok () => issue server address r

/-- The log entry of a change that is about to be carried out. -/
def stepEntry (kind : Kind α) (action : Action) (x : α) : Log.Entry :=
  ⟨.info, s!"{action.name} {kind.label}",
    [("key", .text (Item.key x)), ("item_type", .text (Item.typeLabel x))]⟩

/-- Carries out the steps of a plan, up to the first that fails: how many were
    carried out, and the failure. -/
def execute (kind : Kind α) (server : Server σ) (address : String) :
    List (Action × α) → Session σ (Nat × Option ServerError)
  | [] => return (0, none)
  | (action, x) :: r => do
    Session.record (stepEntry kind action x :: kind.notice action x)
    match ← issue server address (kind.mutations action x) with
    | .error e => return (0, some e)
    | .ok () =>
      let (n, failure) ← execute kind server address r
      return (n + 1, failure)

/-- The outcome of a plan before anything is carried out. -/
def planned (ctx : Context σ) (kind : Kind α) (plan : Plan α) : Outcome where
  address := plan.address
  dryRun := ctx.dryRun
  changes := plan.changes kind.describe
  applied := 0
  unchanged := plan.unchanged
  spared := plan.spared
  error := none

/-- Carries out or reports the plan for an instance. -/
def carryOut (ctx : Context σ) (kind : Kind α) (plan : Plan α) : Session σ Outcome := do
  let outcome := planned ctx kind plan
  if plan.isEmpty then
    Session.record [⟨.debug, "in sync", [("unchanged", .count plan.unchanged)]⟩]
    return outcome
  else if ctx.dryRun then
    Session.record (outcome.changes.map Change.dryRunEntry)
    return outcome
  else
    let (applied, failure) ← execute kind ctx.server plan.address plan.steps
    return { outcome with
      applied := applied
      error := failure.map fun e => (Error.server e).message }

/-- A pass on one instance. -/
def onInstance (ctx : Context σ) (kind : Kind α) (address : String) : Session σ Outcome := do
  match ← kind.fetch ctx address with
  | .error e => return Outcome.unfetched address ctx.dryRun e
  | .ok observed =>
    let desired := kind.desired address
    Session.record (⟨.debug, "fetched items",
      [("desired", .count desired.length), ("observed", .count observed.length)]⟩ ::
      Diff.log desired observed)
    carryOut ctx kind (Plan.ofDiff kind.label address (Diff.of desired observed) kind.isProtected)

/-! ## All instances -/

/-- The log entry of an instance that is not attempted. -/
def skipEntry (kind : Kind α) (address : String) : Log.Entry :=
  ⟨.warn, "skipping invalid instance", [("kind", .text kind.label), ("instance", .text address)]⟩

/-- The log entry of a failure on an instance. -/
def failureEntry (kind : Kind α) (address error : String) : Log.Entry :=
  ⟨.error, "reconciliation failed",
    [("kind", .text kind.label), ("instance", .text address), ("error", .text error)]⟩

/-- Takes an instance out of the run if its outcome is a failure. -/
def settle (kind : Kind α) (outcome : Outcome) : Session σ Unit := do
  match outcome.error with
  | none => return ()
  | some e =>
    Session.record [failureEntry kind outcome.address e]
    Session.markInvalid outcome.address

/-- A pass on the instances of a list, with a second look at each one's
    validity; the outcomes and the instances skipped. -/
def overInstances (ctx : Context σ) (kind : Kind α) :
    List String → Session σ (List Outcome × List String)
  | [] => return ([], [])
  | address :: rest => do
    if (← get).registry.isValid address then
      let outcome ← onInstance ctx kind address
      settle kind outcome
      let (outcomes, skipped) ← overInstances ctx kind rest
      return (outcome :: outcomes, skipped)
    else
      Session.record [skipEntry kind address]
      let (outcomes, skipped) ← overInstances ctx kind rest
      return (outcomes, address :: skipped)

/-- A pass on every instance that is valid when it starts. -/
def perform (ctx : Context σ) (kind : Kind α) : Session σ KindReport := do
  let registry := (← get).registry
  Session.record (registry.invalid.map (skipEntry kind))
  let (outcomes, skipped) ← overInstances ctx kind registry.valid
  return ⟨kind.label, outcomes, registry.invalid ++ skipped⟩

end Pass

end Concord
