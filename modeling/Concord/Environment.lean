/-
  The environment of a process.

  A process holds its variables as texts, each a name, an equals sign and a
  value.  A name is looked up by the start of these texts, so it may reach with
  an equals sign into the value of a shorter name.
-/
import Concord.Dict

namespace Concord

/-- The variables of a process with their values. -/
abbrev Environment := Dict String

namespace Environment

/-- What follows a text at the start of another one. -/
def behind? : List Char → List Char → Option (List Char)
  | [], cs => some cs
  | c :: start, d :: cs => if c = d then behind? start cs else none
  | _ :: _, [] => none

/-- The value that a name is looked up with. -/
def lookup? (env : Environment) (name : String) : Option String :=
  let cs := name.toList
  match cs.dropWhile (· != '=') with
  | [] => env.get? name
  | _ :: rest => do
    let value ← env.get? (String.ofList (cs.takeWhile (· != '=')))
    (behind? (rest ++ ['=']) value.toList).map String.ofList

end Environment

end Concord
