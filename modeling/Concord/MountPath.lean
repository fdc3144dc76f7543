/-
  Paths of mounts and audit devices.

  A path is known under its normal form, which ends in exactly one slash and
  starts with none: blanks are trimmed first, slashes second, each once.

  * `normalize`: the normal form.
  * `same`: two spellings of one path.
  * `segment`: a path without the slashes at its ends, as it stands in a URL.
-/
import Concord.Text.Blank

namespace Concord.MountPath

open Text

/-- The slash that ends a path and separates its parts. -/
def isSlash (c : Char) : Bool := c == '/'

/-- A path without blanks and then without slashes at its ends. -/
def bare (path : String) : String := strip isSlash (trim path)

/-- The normal form of a path, with one slash at its end. -/
def normalize (path : String) : String := bare path ++ "/"

/-- Whether two paths differ at most in the blanks and slashes at their ends. -/
def same (a b : String) : Bool := bare a == bare b

/-- A path without slashes at its ends. -/
def segment (path : String) : String := strip isSlash path

theorem same_iff {a b : String} : same a b = true ↔ bare a = bare b := by
  simp [same]

end Concord.MountPath
