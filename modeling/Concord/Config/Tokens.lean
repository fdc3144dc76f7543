/-
  Tokens: what instances know the operator by.

  Every instance names the variable of the environment that holds its token.
  A token must not be empty.
-/
import Concord.Config.Basic
import Concord.Error

namespace Concord.Config

/-- The token of an instance. -/
def tokenOf (lookup : String → Option String) (x : InstanceSpec) : Except ConfigError String :=
  match lookup x.tokenVariable with
  | some token => if token.isEmpty then .error (.missingVariable x.tokenVariable) else .ok token
  | none => .error (.missingVariable x.tokenVariable)

/-- The tokens of instances with their addresses, or the first variable that
    has no value. -/
def tokenList (lookup : String → Option String) :
    List InstanceSpec → Except ConfigError (List (String × String))
  | [] => .ok []
  | x :: r => do
    let token ← tokenOf lookup x
    let rest ← tokenList lookup r
    .ok ((x.address, token) :: rest)

/-- The token of every address of a document. -/
def tokens (c : Config) (lookup : String → Option String) : Except ConfigError (Dict String) :=
  (tokenList lookup c.instances).map Dict.ofList

end Concord.Config
