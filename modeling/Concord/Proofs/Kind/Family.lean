/-
  The kinds of objects as one family: to each name belong the type of the
  items, the kind over wanted items and the way in which it looks after its
  objects on an instance in memory.

  * `KindName.toKind`: the kind of a name over wanted items.
  * `KindName.serves`: its laws.
-/
import Concord.Proofs.Kind.Upkeep

namespace Concord

/-- The items of a kind. -/
abbrev KindName.Object : KindName → Type
  | audit | engine => Backend
  | policy => Policy

instance : (k : KindName) → Item k.Object
  | .audit => inferInstanceAs (Item Backend)
  | .engine => inferInstanceAs (Item Backend)
  | .policy => inferInstanceAs (Item Policy)

namespace KindName

/-- The kind of a name over wanted items. -/
def toKind : (k : KindName) → List k.Object → Kind k.Object
  | .audit, items => auditDevices items
  | .engine, items => secretsEngines items
  | .policy, items => policies items

/-- The upkeep of the kind of a name. -/
def upkeep : (k : KindName) → Upkeep k k.Object
  | .audit => auditUpkeep
  | .engine => engineUpkeep
  | .policy => policyUpkeep

theorem serves : (k : KindName) → (items : List k.Object) → k.upkeep.Serves (k.toKind items)
  | .audit, items => serves_auditDevices items
  | .engine, items => serves_secretsEngines items
  | .policy, items => serves_policies items

theorem label_toKind (k : KindName) (items : List k.Object) : (k.toKind items).label = k.label := by
  cases k <;> rfl

/-- No kind is refused a pool of an accepted size. -/
theorem refusal_eq_none {n : Nat} (h : 1 ≤ n ∧ n ≤ Pool.maxSize) :
    ∀ k : KindName, k.upkeep.refusal n = none
  | .audit | .engine => rfl
  | .policy => refusal_policyUpkeep h

end KindName

end Concord
