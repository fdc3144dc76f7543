/-
  Servers in memory: instances whose whole configuration is a value.

  * `InstanceState`: the policies, mounts and audit devices of an instance.
  * `InstanceState.perform`: the effect of a mutation, or why it is refused.
  * `Memory.server`: many instances, some of them out of reach or sealed
    against changes; it counts the mutations that succeed.
-/
import Concord.Server.Basic

namespace Concord

/-- The configuration of one instance. -/
structure InstanceState where
  /-- The rules of each policy. -/
  policies : Dict String
  /-- The mounted secrets engines by path. -/
  mounts : Dict BackendRecord
  /-- The audit devices by path. -/
  audits : Dict BackendRecord

namespace InstanceState

/-- An instance without any object. -/
def empty : InstanceState := ⟨Dict.empty, Dict.empty, Dict.empty⟩

/-- A mount that comes with every instance. -/
def builtinMount (type : String) : BackendRecord := ⟨type, "", none⟩

/-- An instance right after its first start, with the objects that come with
    every instance. -/
def fresh : InstanceState where
  policies := Dict.ofList [("default", "# default"), ("root", "")]
  mounts := Dict.ofList [("cubbyhole/", builtinMount "cubbyhole"),
    ("identity/", builtinMount "identity"), ("sys/", builtinMount "system")]
  audits := Dict.empty

/-- The record that settings become. -/
def stored (s : BackendSettings) : BackendRecord := ⟨s.type, s.description, some (s.options.map .str)⟩

/-- The effect of a mutation, or the reason for which it is refused. -/
def perform (s : InstanceState) : Mutation → Except String InstanceState
  | .writePolicy name rules => .ok { s with policies := s.policies.insert name rules }
  | .deletePolicy name =>
    if s.policies.contains name then .ok { s with policies := s.policies.erase name }
    else .error s!"policy {name} not found"
  | .enableEngine path settings =>
    if s.mounts.contains path then .error s!"path is already in use at {path}"
    else .ok { s with mounts := s.mounts.insert path (stored settings) }
  | .tuneEngine path settings =>
    match s.mounts.get? path with
    | none => .error s!"no mount at {path}"
    | some mount =>
      let tuned := { stored settings with type := mount.type }
      .ok { s with mounts := s.mounts.insert path tuned }
  | .disableEngine path => .ok { s with mounts := s.mounts.erase path }
  | .enableAudit path settings =>
    if s.audits.contains path then .error s!"path already in use at {path}"
    else .ok { s with audits := s.audits.insert path (stored settings) }
  | .disableAudit path => .ok { s with audits := s.audits.erase path }

/-- The answer to a query; only the read of a policy can fail. -/
def answer (s : InstanceState) : (q : Query) → Option q.Answer
  | .listPolicies => some s.policies.keys
  | .readPolicy name => s.policies.get? name
  | .listEngines => some s.mounts
  | .listAudits => some s.audits

end InstanceState

/-- Instances in memory. -/
structure Memory where
  /-- The instances by address. -/
  instances : Dict InstanceState
  /-- The addresses that no call reaches. -/
  unreachable : List String
  /-- The addresses that refuse every mutation. -/
  readOnly : List String
  /-- How many mutations have succeeded. -/
  mutations : Nat

namespace Memory

/-- Instances that all can be reached and changed. -/
def ofInstances (instances : Dict InstanceState) : Memory := ⟨instances, [], [], 0⟩

/-- The instance at an address; an empty one where there is none. -/
def state (m : Memory) (address : String) : InstanceState :=
  (m.instances.get? address).getD InstanceState.empty

/-- The answer to a query at an address. -/
def ask (m : Memory) (address : String) (q : Query) : Except ServerError q.Answer :=
  if m.unreachable.contains address then .error (.unreachable address "connection refused")
  else
    match m.instances.get? address with
    | none => .error (.unreachable address "unknown instance")
    | some s =>
      match s.answer q with
      | some answer => .ok answer
      | none => .error (.rejected address 404 "no such policy")

/-- The effect of a mutation at an address. -/
def change (m : Memory) (address : String) (mutation : Mutation) : Except ServerError Memory :=
  if m.unreachable.contains address then .error (.unreachable address "connection refused")
  else if m.readOnly.contains address then .error (.rejected address 503 "sealed")
  else
    match m.instances.get? address with
    | none => .error (.unreachable address "unknown instance")
    | some s =>
      match s.perform mutation with
      | .error reason => .error (.rejected address 400 reason)
      | .ok s =>
        .ok { m with instances := m.instances.insert address s, mutations := m.mutations + 1 }

/-- Instances in memory as a server; a call that fails has no effect. -/
def server : Server Memory where
  ask address q m := (m.ask address q, m)
  change address mutation m :=
    match m.change address mutation with
    | .ok m' => (.ok (), m')
    | .error e => (.error e, m)

end Memory

end Concord
