/-
  Items: the objects of one kind on one instance, as the engine sees them.

  An item has a key, by which a desired and an observed item are paired, and a
  kind-specific equality that says whether the two are in sync.
-/

namespace Concord

/-- An object of one kind, identified by its key within an instance. -/
class Item (α : Type) where
  /-- The key, unique within an instance and a kind. -/
  key : α → String
  /-- Whether a desired item and an observed one of its key are in sync. -/
  agrees : α → α → Bool
  /-- The type shown for a pending change. -/
  typeLabel : α → String
  /-- The description shown for a pending change. -/
  description : α → String

end Concord
