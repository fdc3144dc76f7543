/-
  The configuration document.

  It lists the managed instances and, for each kind of object, the objects
  wanted on them, each with the address of its instance.

  * `Config.toJson`: the document as JSON, with every field written out.
  * `Config.objectCount`, `Config.addresses`.
-/
import Concord.Options

namespace Concord

/-- A managed instance. -/
structure InstanceSpec where
  address : String
  /-- The variable of the environment that holds the token. -/
  tokenVariable : String
  deriving DecidableEq, Inhabited

/-- A wanted mount or audit device. -/
structure BackendSpec where
  path : String
  type : String
  description : String
  /-- The address of the instance it belongs to. -/
  address : String
  options : Dict Json
  deriving Inhabited

/-- A wanted policy. -/
structure PolicySpec where
  name : String
  type : String
  description : String
  /-- The address of the instance it belongs to. -/
  address : String
  rules : String
  deriving DecidableEq, Inhabited

/-- A configuration document. -/
structure Config where
  instances : List InstanceSpec
  audits : List BackendSpec
  engines : List BackendSpec
  policies : List PolicySpec
  deriving Inhabited

/-- An instance as a JSON object. -/
def InstanceSpec.toJson (i : InstanceSpec) : Json :=
  .obj [("address", .str i.address), ("token_env", .str i.tokenVariable)]

/-- A mount or an audit device as a JSON object. -/
def BackendSpec.toJson (b : BackendSpec) : Json :=
  .obj [("_path", .str b.path), ("description", .str b.description),
    ("instance", .obj [("address", .str b.address)]), ("options", Json.ofDict b.options),
    ("type", .str b.type)]

/-- A policy as a JSON object. -/
def PolicySpec.toJson (p : PolicySpec) : Json :=
  .obj [("description", .str p.description), ("instance", .obj [("address", .str p.address)]),
    ("name", .str p.name), ("rules", .str p.rules), ("type", .str p.type)]

namespace Config

/-- A document as JSON. -/
def toJson (c : Config) : Json :=
  .obj [("instances", .arr (c.instances.map InstanceSpec.toJson)),
    ("vault_audit_backends", .arr (c.audits.map BackendSpec.toJson)),
    ("vault_policies", .arr (c.policies.map PolicySpec.toJson)),
    ("vault_secret_engines", .arr (c.engines.map BackendSpec.toJson))]

/-- The addresses of the instances, in document order. -/
def addresses (c : Config) : List String := c.instances.map (·.address)

/-- How many objects are wanted. -/
def objectCount (c : Config) : Nat := c.audits.length + c.engines.length + c.policies.length

end Config

end Concord
