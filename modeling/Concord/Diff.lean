/-
  The difference between desired and observed items of one kind on one
  instance.

  A desired item is paired with the last observed item of its key, once: a
  second desired item of that key finds no partner.  What has no partner is
  created, what disagrees with its partner is updated, and observed items
  without a partner are deleted.

  * `judge`: the verdict on every desired item, and the observed items left.
  * `Diff.of`: the difference; `classify` says how a key came out of it.
-/
import Concord.Item
import Concord.Log

namespace Concord

/-- What is to happen to a desired item. -/
inductive Verdict where
  | create | update | keep
  deriving DecidableEq, Repr

/-- How a key came out of a comparison. -/
inductive Classification where
  | create | update | delete | noChange
  deriving DecidableEq, Repr

/-- The word for a classification. -/
def Classification.name : Classification → String
  | create => "create"
  | update => "update"
  | delete => "delete"
  | noChange => "no change"

/-- The difference between desired and observed items. -/
structure Diff (α : Type) where
  /-- Desired items without a partner, in desired order. -/
  toCreate : List α
  /-- Desired items that disagree with their partner, in desired order. -/
  toUpdate : List α
  /-- Observed items without a partner, in observed order. -/
  toDelete : List α
  /-- The keys of the desired items that agree with their partner. -/
  unchanged : List String

section

variable {α : Type} [Item α]

/-! ## Pairing -/

/-- An observed item that is not yet paired, and whether it may be: only the
    last item of a key may. -/
structure Candidate (α : Type) where
  item : α
  available : Bool

/-- The observed items as candidates. -/
def candidates : List α → List (Candidate α)
  | [] => []
  | x :: r => ⟨x, r.all fun y => Item.key y ≠ Item.key x⟩ :: candidates r

/-- Takes the candidate of a key. -/
def claim (key : String) : List (Candidate α) → Option α × List (Candidate α)
  | [] => (none, [])
  | c :: r =>
    if c.available && Item.key c.item == key then (some c.item, r)
    else
      let (found, rest) := claim key r
      (found, c :: rest)

/-- The verdict on a desired item with or without a partner. -/
def verdict (desired : α) : Option α → Verdict
  | none => .create
  | some current => if Item.agrees desired current then .keep else .update

/-- The verdict on every desired item, and the observed items left over. -/
def judge : List α → List (Candidate α) → List (α × Verdict) × List α
  | [], cs => ([], cs.map (·.item))
  | d :: ds, cs =>
    let (partner, cs) := claim (Item.key d) cs
    let (rest, left) := judge ds cs
    ((d, verdict d partner) :: rest, left)

/-! ## The difference -/

namespace Diff

/-- The desired items of a verdict. -/
def withVerdict (v : Verdict) (judged : List (α × Verdict)) : List α :=
  judged.filterMap fun (x, w) => if w = v then some x else none

/-- The difference between desired and observed items. -/
def of (desired observed : List α) : Diff α :=
  let (judged, left) := judge desired (candidates observed)
  { toCreate := withVerdict .create judged
    toUpdate := withVerdict .update judged
    toDelete := left
    unchanged := (withVerdict .keep judged).map Item.key }

/-- The log entries of a comparison: one for each item to create or update. -/
def log (desired observed : List α) : List Log.Entry :=
  (judge desired (candidates observed)).1.filterMap fun (x, v) =>
    match v with
    | .create => some ⟨.trace, "to create", [("key", .text (Item.key x))]⟩
    | .update => some ⟨.trace, "to update", [("key", .text (Item.key x))]⟩
    | .keep => none

/-- Whether anything is to be done. -/
def hasChanges (d : Diff α) : Bool :=
  !d.toCreate.isEmpty || !d.toUpdate.isEmpty || !d.toDelete.isEmpty

/-- How many items are to be created, updated or deleted. -/
def totalChanges (d : Diff α) : Nat := d.toCreate.length + d.toUpdate.length + d.toDelete.length

/-- Whether a list holds an item of a key. -/
def holds (key : String) (items : List α) : Bool := items.any fun x => Item.key x == key

/-- How a key came out of the comparison; nothing if neither side has it. -/
def classify (d : Diff α) (key : String) : Option Classification :=
  if holds key d.toCreate then some .create
  else if holds key d.toUpdate then some .update
  else if holds key d.toDelete then some .delete
  else if d.unchanged.contains key then some .noChange
  else none

end Diff

end

end Concord
