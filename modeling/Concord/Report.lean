/-
  Reports for the operator, as text or as JSON.

  * `runOutput`: a run, with a table of its changes, the failures and a closing
    line that counts the changes.
  * `validationOutput`: an accepted document, with its warnings and its sizes.
-/
import Concord.Colour
import Concord.Config.Validation
import Concord.Json.Text
import Concord.Run
import Concord.Table

namespace Concord

/-- The form of a report. -/
inductive OutputFormat where
  | text | json
  deriving DecidableEq, Repr

namespace Report

/-! ## Runs -/

/-- The word for an action in the table of changes. -/
def actionCell (colours : Bool) : Action → String
  | .create => Colour.green.paint colours "+create"
  | .update => Colour.yellow.paint colours "~update"
  | .delete => Colour.red.paint colours "-delete"

/-- The row of a change. -/
def changeRow (colours : Bool) (c : Change) : List String :=
  [actionCell colours c.action, c.kind, c.address, c.key, c.typeLabel, c.detail.getD ""]

/-- The heads of the columns. -/
def header : List String := ["Action", "Kind", "Instance", "Key", "Type", "Detail"]

/-- The changes of a run. -/
def changes (r : RunReport) : List Change := r.outcomes.flatMap (·.changes)

/-- The line that says that there is nothing to do. -/
def inSyncLine (colours : Bool) : String :=
  Colour.green.paint colours "✓" ++ " No changes required, every instance is in sync.\n"

/-- The changes of a run as a table under a title. -/
def changeTable (colours : Bool) (r : RunReport) : String :=
  let title := if r.dryRun then "Planned changes" else "Changes"
  "\n" ++ title ++ "\n\n" ++ Table.render (header :: (changes r).map (changeRow colours)) ++ "\n"

/-- The line of a failure. -/
def failureLine (colours : Bool) (kind : String) (o : Outcome) : String :=
  match o.error with
  | some reason => Colour.red.paint colours "✗" ++ s!" {kind} on {o.address}: {reason}\n"
  | none => ""

/-- The lines of all failures, in the order of the passes. -/
def failureLines (colours : Bool) (r : RunReport) : String :=
  String.join (r.kinds.flatMap fun k => k.outcomes.map (failureLine colours k.kind))

/-- How many changes of an action are planned in a run. -/
def count (r : RunReport) (action : Action) : Nat :=
  r.outcomes.foldl (fun n o => n + o.count action) 0

/-- The line that counts the changes. -/
def countLine (colours : Bool) (r : RunReport) : String :=
  let mode := if r.dryRun then "Plan" else "Run"
  let creates := Colour.green.paint colours (toString (count r .create))
  let updates := Colour.yellow.paint colours (toString (count r .update))
  let deletes := Colour.red.paint colours (toString (count r .delete))
  s!"\n{mode}: {creates} to create, {updates} to update, {deletes} to delete, " ++
    s!"{r.appliedCount} applied\n"

/-- The line that names the instances on which something failed. -/
def invalidLine (colours : Bool) (r : RunReport) : String :=
  if r.success then ""
  else
    Colour.yellow.paint colours "⚠" ++
      " Failed instances: " ++ ", ".intercalate r.invalid ++ "\n"

/-- A run as text. -/
def runText (colours : Bool) (r : RunReport) : String :=
  (if (changes r).isEmpty then inSyncLine colours else changeTable colours r) ++
    failureLines colours r ++ countLine colours r ++ invalidLine colours r

/-- A run in a form. -/
def runOutput (format : OutputFormat) (colours : Bool) (r : RunReport) : String :=
  match format with
  | .text => runText colours r
  | .json => r.toJson.pretty

/-! ## Documents -/

/-- An accepted document as text. -/
def validationText (colours : Bool) (c : Config) (warnings : List String) : String :=
  let warningLine := fun w => "  " ++ Colour.yellow.paint colours "⚠" ++ s!" {w}\n"
  Colour.green.paint colours "✓" ++ " Configuration is valid!\n" ++
    (if warnings.isEmpty then ""
      else "\nWarnings:\n" ++ String.join (warnings.map warningLine)) ++
    s!"\nConfiguration summary:\n  Instances: {c.instances.length}\n" ++
    s!"  Audit devices: {c.audits.length}\n  Secrets engines: {c.engines.length}\n" ++
    s!"  Policies: {c.policies.length}\n"

/-- An accepted document as JSON, its members by name. -/
def validationJson (c : Config) (warnings : List String) : Json :=
  .obj [("audit_devices", .int c.audits.length), ("instances", Json.texts c.addresses),
    ("policies", .int c.policies.length), ("secrets_engines", .int c.engines.length),
    ("valid", .bool true), ("warnings", Json.texts warnings)]

/-- An accepted document in a form. -/
def validationOutput (format : OutputFormat) (colours : Bool) (c : Config)
    (warnings : List String) : String :=
  match format with
  | .text => validationText colours c warnings
  | .json => (validationJson c warnings).pretty

end Report

end Concord
