/-
  Which documents are accepted.

  A document must name its instances properly, every object must belong to an
  instance of the document, and no two objects of a kind may have one key on
  one instance.  What is allowed but likely to be a mistake gives a warning.

  * `Config.problems`: the broken rules, in the order of the document.
  * `Config.warnings`: the warnings, in the order of the document.
  * `Config.validate`: the warnings, or the first broken rule.
-/
import Concord.Config.Basic
import Concord.Error
import Concord.Kind.Backend
import Concord.Kind.Policy
import Concord.MountPath
import Concord.Text.Blank

namespace Concord.Config

open Text

/-- A broken rule of a field. -/
def fieldError (message field : String) : ConfigError := .invalid message (some field)

/-- The error of a field that must not be blank. -/
def blankError (value field name : String) : List ConfigError :=
  if isBlankText value then [fieldError s!"{name} cannot be empty" s!"{field}.{name}"] else []

/-- The name of an element of a section. -/
def element (section_ : String) (i : Nat) : String := s!"{section_}[{i}]"

/-! ## Instances -/

/-- Whether an address is that of a web server. -/
def isWebAddress (address : String) : Bool :=
  "http://".toList.isPrefixOf address.toList || "https://".toList.isPrefixOf address.toList

/-- The broken rules of an instance, given the addresses before it. -/
def instanceProblems (seen : List String) (i : Nat) (x : InstanceSpec) : List ConfigError :=
  let field := element "instances" i
  (if isWebAddress x.address then []
    else [fieldError s!"Address '{x.address}' must start with http:// or https://"
      s!"{field}.address"]) ++
  (if isBlankText x.tokenVariable then
    [fieldError "Token variable name cannot be empty" s!"{field}.token_env"]
    else []) ++
  if seen.contains x.address then
    [fieldError s!"Instance '{x.address}' is listed twice" s!"{field}.address"]
  else []

/-- The broken rules of instances from the `i`-th on, given the addresses
    before them. -/
def instancesProblems (seen : List String) (i : Nat) : List InstanceSpec → List ConfigError
  | [] => []
  | x :: r => instanceProblems seen i x ++ instancesProblems (x.address :: seen) (i + 1) r

/-- The warning for an address that ends in a slash. -/
def instanceWarnings (i : Nat) (x : InstanceSpec) : List String :=
  if x.address.toList.getLast? = some '/' then
    let field := element "instances" i
    [s!"{field}.address: trailing slash in '{x.address}' is part of the instance key"]
  else []

/-! ## Keys -/

/-- The broken rule of an object's instance and key, given the keys before it
    in its section. -/
def keyProblem (kind : String) (known : List String) (seen : List (String × String))
    (address key : String) : List ConfigError :=
  if !known.contains address then [.unknownInstance kind key address]
  else if seen.contains (address, key) then [.duplicateKey kind address key]
  else []

/-- The keys seen after an object: one on an unknown instance does not
    count. -/
def seenAfter (known : List String) (seen : List (String × String)) (address key : String) :
    List (String × String) :=
  if known.contains address then (address, key) :: seen else seen

/-! ## Mounts and audit devices -/

/-- The broken rules of mounts or audit devices from the `i`-th on. -/
def backendProblems (kind section_ : String) (known : List String) (seen : List (String × String))
    (i : Nat) : List BackendSpec → List ConfigError
  | [] => []
  | b :: r =>
    let field := element section_ i
    let key := MountPath.normalize b.path
    blankError b.path field "_path" ++ blankError b.type field "type" ++
      keyProblem kind known seen b.address key ++
      backendProblems kind section_ known (seenAfter known seen b.address key) (i + 1) r

/-- The warning for a mount that comes with every instance. -/
def engineWarnings (i : Nat) (b : BackendSpec) : List String :=
  let field := element "vault_secret_engines" i
  let path := MountPath.normalize b.path
  if isBuiltinMount path then
    [s!"{field}: '{path}' is a built-in mount and is never disabled"]
  else []

/-! ## Policies -/

/-- The broken rules of policies from the `i`-th on. -/
def policyProblems (known : List String) (seen : List (String × String)) (i : Nat) :
    List PolicySpec → List ConfigError
  | [] => []
  | p :: r =>
    let field := element "vault_policies" i
    blankError p.name field "name" ++
      (if p.type = "acl" then []
        else [fieldError s!"Unsupported policy type '{p.type}', only 'acl' is managed"
          s!"{field}.type"]) ++
      keyProblem "policy" known seen p.address p.name ++
      policyProblems known (seenAfter known seen p.address p.name) (i + 1) r

/-- The warnings for a policy without rules and for one that comes with every
    instance. -/
def policyWarnings (i : Nat) (p : PolicySpec) : List String :=
  let field := element "vault_policies" i
  (if isBlankText p.rules then [s!"{field}: policy '{p.name}' has no rules"] else []) ++
  if isBuiltinPolicy p.name then
    [s!"{field}: '{p.name}' is a built-in policy and is never deleted"]
  else []

/-! ## Documents -/

/-- Whether any object belongs to an instance. -/
def owns (c : Config) (address : String) : Bool :=
  c.audits.any (·.address == address) || c.engines.any (·.address == address) ||
    c.policies.any (·.address == address)

/-- The warning for an instance without objects: a live run removes all that
    is not protected from it. -/
def unmanagedWarnings (c : Config) (x : InstanceSpec) : List String :=
  if c.owns x.address then []
  else
    [s!"instance {x.address} has no desired objects; " ++
      "all unprotected objects on it will be removed"]

/-- The broken rules of a document. -/
def problems (c : Config) : List ConfigError :=
  (if c.instances.isEmpty then
    [fieldError "At least one instance must be configured" "instances"] else []) ++
  instancesProblems [] 0 c.instances ++
  backendProblems "audit device" "vault_audit_backends" c.addresses [] 0 c.audits ++
  backendProblems "secrets engine" "vault_secret_engines" c.addresses [] 0 c.engines ++
  policyProblems c.addresses [] 0 c.policies

/-- The warnings of a document. -/
def warnings (c : Config) : List String :=
  (c.instances.mapIdx instanceWarnings).flatten ++ (c.engines.mapIdx engineWarnings).flatten ++
    (c.policies.mapIdx policyWarnings).flatten ++ c.instances.flatMap c.unmanagedWarnings

/-- The warnings of an accepted document, or the first broken rule of another. -/
def validate (c : Config) : Except ConfigError (List String) :=
  match c.problems with
  | [] => .ok c.warnings
  | e :: _ => .error e

end Concord.Config
