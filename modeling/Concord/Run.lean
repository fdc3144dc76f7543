/-
  Runs: every kind of object on every instance.

  Kinds come in a fixed order: audit devices first, so that what follows is
  audited, then secrets engines, then the policies that may refer to their
  paths.  Every instance starts a run valid; a failure never ends the run, it
  only takes its instance out.

  * `Run.perform`: a run over some kinds, with its `RunReport`.
  * `Run.everyKind`: the kinds of a document in their order.
-/
import Concord.Kind.Backend
import Concord.Kind.Policy
import Concord.Pass
import Concord.Text.Quoted
import Concord.Timestamp

namespace Concord

/-- The kinds of objects of a document. -/
inductive KindName where
  | audit | engine | policy
  deriving DecidableEq, Repr

/-- The label of a kind. -/
def KindName.label : KindName → String
  | audit => "audit device"
  | engine => "secrets engine"
  | policy => "policy"

namespace Config

/-- The audit devices of a document as a kind. -/
def auditKind (c : Config) : Kind Backend := auditDevices (c.audits.map Backend.ofSpec)

/-- The secrets engines of a document as a kind. -/
def engineKind (c : Config) : Kind Backend := secretsEngines (c.engines.map Backend.ofSpec)

/-- The policies of a document as a kind. -/
def policyKind (c : Config) : Kind Policy := Concord.policies (c.policies.map Policy.ofSpec)

end Config

/-- What a run is identified by, and what a clock says of it. -/
structure RunStamp where
  runId : String
  startedAt : Timestamp
  /-- The duration in seconds. -/
  duration : Decimal

/-- What came of a run. -/
structure RunReport where
  stamp : RunStamp
  dryRun : Bool
  /-- The passes, in their order. -/
  kinds : List KindReport
  /-- The configured addresses. -/
  instances : List String
  /-- The addresses on which something failed. -/
  invalid : List String

namespace RunReport

/-- Whether nothing failed. -/
def success (r : RunReport) : Bool := r.invalid.isEmpty

/-- The outcomes of all passes. -/
def outcomes (r : RunReport) : List Outcome := r.kinds.flatMap (·.outcomes)

/-- How many changes are planned. -/
def changeCount (r : RunReport) : Nat := r.kinds.foldl (fun n k => n + k.changeCount) 0

/-- How many changes were carried out. -/
def appliedCount (r : RunReport) : Nat := r.kinds.foldl (fun n k => n + k.appliedCount) 0

/-- A report in one line. -/
def summary (r : RunReport) : String :=
  let mode := if r.dryRun then "dry run" else "run"
  let healthy := r.instances.length - r.invalid.length
  s!"{mode} {r.stamp.runId}: {r.changeCount} change(s), {r.appliedCount} applied, " ++
    s!"{healthy}/{r.instances.length} instance(s) healthy"

/-- A report as a JSON object. -/
def toJson (r : RunReport) : Json :=
  .obj [("run_id", .str r.stamp.runId), ("started_at", .str r.stamp.startedAt.text),
    ("duration_secs", .float r.stamp.duration), ("dry_run", .bool r.dryRun),
    ("kinds", .arr (r.kinds.map KindReport.toJson)), ("instances", Json.texts r.instances),
    ("invalid_instances", Json.texts r.invalid)]

/-- The last log entry of a run. -/
def closingEntry (r : RunReport) : Log.Entry :=
  if r.success then
    ⟨.info, "Reconciliation finished",
      [("run_id", .text r.stamp.runId), ("changes", .count r.changeCount)]⟩
  else
    ⟨.warn, "Reconciliation finished with failures",
      [("run_id", .text r.stamp.runId), ("invalid", .text (Text.quoteList r.invalid))]⟩

end RunReport

namespace Run

variable {σ : Type}

/-- The kinds of a document, in the order in which they are reconciled. -/
def everyKind : List KindName := [.audit, .engine, .policy]

/-- A pass of one kind of a document. -/
def pass (ctx : Context σ) (c : Config) : KindName → Session σ KindReport
  | .audit => Pass.perform ctx c.auditKind
  | .engine => Pass.perform ctx c.engineKind
  | .policy => Pass.perform ctx c.policyKind

/-- The passes of some kinds, one after the other. -/
def passes (ctx : Context σ) (c : Config) : List KindName → Session σ (List KindReport)
  | [] => return []
  | k :: r => do
    Session.record [⟨.info, "Reconciling", [("kind", .text k.label)]⟩]
    let report ← pass ctx c k
    let rest ← passes ctx c r
    return report :: rest

/-- A run over some kinds of a document. -/
def perform (ctx : Context σ) (c : Config) (kinds : List KindName) (stamp : RunStamp) :
    Session σ RunReport := do
  Session.resetRegistry
  let configured := (← get).registry.configured
  Session.record [⟨.info, "Starting reconciliation",
    [("instances", .count configured.length), ("kinds", .count kinds.length)]⟩]
  let reports ← passes ctx c kinds
  let report : RunReport :=
    { stamp := stamp
      dryRun := ctx.dryRun
      kinds := reports
      instances := configured
      invalid := (← get).registry.invalid }
  Session.record [report.closingEntry]
  return report

end Run

end Concord
