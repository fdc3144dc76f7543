/-
  Plans: the changes that bring one kind on one instance in line, in the order
  in which they are carried out: creations, then updates, then deletions.

  Items that must never be deleted are left out of a plan and counted
  (`spared`).

  * `Plan.ofDiff`: the plan of a difference.
  * `Plan.steps`: its items with their actions; `Plan.changes` describes them.
-/
import Concord.Diff
import Concord.Json.Basic

namespace Concord

/-- What a change does to an item. -/
inductive Action where
  | create | update | delete
  deriving DecidableEq, Repr

/-- The verb of an action. -/
def Action.name : Action → String
  | create => "create"
  | update => "update"
  | delete => "delete"

/-- The word for what an action will have done. -/
def Action.pastParticiple : Action → String
  | create => "created"
  | update => "updated"
  | delete => "deleted"

/-- A pending change, as it is reported. -/
structure Change where
  action : Action
  /-- The label of the kind. -/
  kind : String
  /-- The address of the instance. -/
  address : String
  key : String
  typeLabel : String
  description : String
  /-- A further detail, for kinds that have one. -/
  detail : Option String
  deriving DecidableEq, Repr

namespace Change

/-- A change in one line. -/
def summary (c : Change) : String := s!"{c.action.name} {c.kind} '{c.key}' on {c.address}"

/-- The log entry of a change that is only reported. -/
def dryRunEntry (c : Change) : Log.Entry where
  level := .info
  message := s!"[Dry Run] {c.kind} to be {c.action.pastParticiple}"
  fields := [("kind", .text c.kind), ("instance", .text c.address), ("key", .text c.key),
    ("item_type", .text c.typeLabel), ("description", .text c.description),
    ("detail", .text (c.detail.getD ""))]

/-- A change as a JSON object; the detail only where there is one. -/
def toJson (c : Change) : Json :=
  .obj ([("action", .str c.action.name), ("kind", .str c.kind), ("instance", .str c.address),
    ("key", .str c.key), ("item_type", .str c.typeLabel), ("description", .str c.description)] ++
    match c.detail with
    | some detail => [("detail", .str detail)]
    | none => [])

end Change

/-- The changes for one kind on one instance. -/
structure Plan (α : Type) where
  /-- The label of the kind. -/
  kind : String
  /-- The address of the instance. -/
  address : String
  creates : List α
  updates : List α
  deletes : List α
  /-- How many items are in sync. -/
  unchanged : Nat
  /-- How many items are left although nobody wants them. -/
  spared : Nat

namespace Plan

variable {α : Type} [Item α]

/-- The plan of a difference, without the deletions of protected items. -/
def ofDiff (kind address : String) (diff : Diff α) (isProtected : α → Bool) : Plan α where
  kind := kind
  address := address
  creates := diff.toCreate
  updates := diff.toUpdate
  deletes := diff.toDelete.filter fun x => !isProtected x
  unchanged := diff.unchanged.length
  spared := (diff.toDelete.filter isProtected).length

/-- The items of a plan with their actions, in the order of execution. -/
def steps (p : Plan α) : List (Action × α) :=
  p.creates.map (.create, ·) ++ p.updates.map (.update, ·) ++ p.deletes.map (.delete, ·)

/-- Whether there is nothing to do. -/
def isEmpty (p : Plan α) : Bool := p.creates.isEmpty && p.updates.isEmpty && p.deletes.isEmpty

/-- How many changes there are. -/
def actionCount (p : Plan α) : Nat := p.creates.length + p.updates.length + p.deletes.length

/-- The report of one change of a plan. -/
def change (p : Plan α) (detail : α → Option String) (action : Action) (x : α) : Change where
  action := action
  kind := p.kind
  address := p.address
  key := Item.key x
  typeLabel := Item.typeLabel x
  description := Item.description x
  detail := detail x

/-- The reports of the changes, in the order of execution. -/
def changes (p : Plan α) (detail : α → Option String) : List Change :=
  p.steps.map fun (action, x) => p.change detail action x

end Plan

end Concord
