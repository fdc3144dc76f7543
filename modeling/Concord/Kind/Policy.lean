/-
  Policies.

  An instance lists the names of its policies and gives the rules of one at a
  time, so the rules are read by a fan-out over the names.

  * `Policy`: the item; `ofSpec`, `observed`.
  * `policies`: the kind.
  * `isBuiltinPolicy`: the policies that must never be deleted.
  * `rulesDigest`: the short digest shown with a pending change.
-/
import Concord.Config.Basic
import Concord.Digest.Sha256
import Concord.Kind.Basic

namespace Concord

/-- A policy on an instance. -/
structure Policy where
  name : String
  rules : String
  type : String
  description : String
  /-- The address of the instance. -/
  address : String
  deriving DecidableEq

namespace Policy

/-- The item of a wanted policy. -/
def ofSpec (p : PolicySpec) : Policy := ⟨p.name, p.rules, p.type, p.description, p.address⟩

/-- The item of a policy that an instance has; instances keep no
    description. -/
def observed (address name rules : String) : Policy := ⟨name, rules, "acl", "", address⟩

instance : Item Policy where
  key := name
  agrees a b := a.name == b.name && a.rules == b.rules
  typeLabel := type
  description := description

/-- Policies in increasing order of their names. -/
def sortByName (ps : List Policy) : List Policy := ps.mergeSort fun a b => a.name ≤ b.name

/-- The items that belong to an instance. -/
def onInstance (items : List Policy) (address : String) : List Policy :=
  items.filter fun p => p.address = address

/-- The results of all reads, or the first failure among them. -/
def collect : List (Except ServerError Policy) → Except ServerError (List Policy)
  | [] => .ok []
  | .error e :: _ => .error e
  | .ok p :: r => (collect r).map (p :: ·)

end Policy

/-- The policies that come with every instance. -/
def isBuiltinPolicy (name : String) : Bool := name == "root" || name == "default"

/-- The first twelve hexadecimal digits of the digest of rules. -/
def rulesDigest (rules : String) : String :=
  String.ofList ((Sha256.hex rules.toUTF8.toList).toList.take 12)

/-- Reads the rules of policies, as many at once as the pool allows. -/
def readPolicies {σ : Type} (ctx : Context σ) (address : String) (names : List String) :
    Session σ (Except Error (List Policy)) :=
  match Pool.ofSize ctx.poolSize with
  | .error e => return .error (.engine e)
  | .ok pool => do
    let read := fun name => do
      let rules ← Session.ask ctx.server address (.readPolicy name)
      return .ok (rules.map (Policy.observed address name))
    let fanOut ← FanOut.perform pool ctx.schedule read names
    Session.record [⟨.debug, "waiting for pool",
      [("units", .count names.length), ("pool_size", .count ctx.poolSize)]⟩]
    return match fanOut.outcome with
      | .error e => .error (.engine e)
      | .ok reads =>
        match Policy.collect reads with
        | .error e => .error (.server e)
        | .ok ps => .ok (Policy.sortByName ps)

/-- The policies among wanted items. -/
def policies (items : List Policy) : Kind Policy where
  label := "policy"
  desired := Policy.onInstance items
  fetch ctx address := do
    let listing ← Session.ask ctx.server address .listPolicies
    match listing with
    | .error e => return .error (.server e)
    | .ok names => readPolicies ctx address names
  isProtected p := isBuiltinPolicy p.name
  describe p := some ("rules sha256:" ++ rulesDigest p.rules)
  mutations
    | .create, p | .update, p => [.writePolicy p.name p.rules]
    | .delete, p => [.deletePolicy p.name]
  notice _ _ := []

end Concord
