/-
  Domain names beyond ASCII.

  The characters of a name are replaced and put together, and each of its labels
  is written in ASCII.

  * `ascii?`: the form of a name in ASCII, if it has one.
-/
import Concord.Url.Domain.Direction
import Concord.Url.Domain.Label

namespace Concord.Url.Domain

/-- The labels of a name, with its characters replaced. -/
def labels? (name : List Char) : Option (List Label) := do
  let replaced ← name.mapM replace?
  ((Text.compose replaced.flatten).splitOn '.').mapM Label.read?

/-- Whether labels keep their directions, where one is written from right to
    left. -/
def keepDirections (labels : List (List Char)) : Bool :=
  !(labels.any fun label => label.any fun c => (direction c).isRightward) ||
    labels.all keepsDirection

/-- The form of a name in ASCII. -/
def ascii? (name : List Char) : Option (List Char) := do
  let labels ← labels? name
  if keepDirections (labels.map (·.characters)) then
    some (['.'].intercalate (labels.map (·.ascii)))
  else none

end Concord.Url.Domain
