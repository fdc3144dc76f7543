/-
  Options of mounts and audit devices.

  A document and a server may give one option in different types (`2` and
  `"2"`).  Options are compared as texts: a string stands for itself, `null`
  for a missing option, and any other value for its compact JSON text.
-/
import Concord.Json.Text

namespace Concord

/-- Normalized options: a text for each name. -/
abbrev Options := Dict String

namespace Options

/-- The text of an option, unless it is `null`. -/
def textOf? : Json → Option String
  | .null => none
  | .str s => some s
  | j => some j.compact

/-- The normalized form of options of any type. -/
def ofRaw (raw : Dict Json) : Options := raw.filterMap textOf?

/-- The JSON object of normalized options. -/
def toJson (o : Options) : Json := Json.ofDict (o.map .str)

end Options

end Concord
