/-
  The schema of configuration documents, and documents read by it.

  * `Config.schema`: sections and fields with their defaults.
  * `Config.ofJson?`: the document of a JSON value.
  * `Config.ofText?` and `Config.toText`: the document of a JSON text, and the
    text of a document.
  * `Config.parse`: the document of a YAML text.
  * `Config.ofCanonical`: the document of a value in canonical form.
-/
import Concord.Config.Basic
import Concord.Error
import Concord.Schema.Reader
import Concord.Yaml.Document

namespace Concord

/-! ## Schema -/

/-- The shape of a reference to an instance. -/
def InstanceSpec.referenceSchema : Shape := .record "InstanceRef" [("address", .text, none)]

/-- The shape of an instance. -/
def InstanceSpec.schema : Shape :=
  .record "InstanceConfig"
    [("address", .text, none), ("token_env", .text, some (.str "VAULT_TOKEN"))]

/-- The shape of a wanted mount or audit device. -/
def BackendSpec.schema (name : String) : Shape :=
  .record name
    [("_path", .text, none), ("type", .text, none), ("description", .text, some (.str "")),
      ("instance", InstanceSpec.referenceSchema, none), ("options", .dict false .any, some (.obj []))]

/-- The shape of a wanted policy. -/
def PolicySpec.schema : Shape :=
  .record "PolicyConfig"
    [("name", .text, none), ("type", .text, some (.str "acl")),
      ("description", .text, some (.str "")), ("instance", InstanceSpec.referenceSchema, none),
      ("rules", .text, none)]

/-- The shape of a document. -/
def Config.schema : Shape :=
  .record "ConvergeConfig"
    [("instances", .list InstanceSpec.schema, none),
      ("vault_audit_backends", .list (BackendSpec.schema "AuditDeviceConfig"), some (.arr [])),
      ("vault_secret_engines", .list (BackendSpec.schema "SecretsEngineConfig"), some (.arr [])),
      ("vault_policies", .list PolicySpec.schema, some (.arr []))]

/-! ## Documents of canonical values -/

/-- The instance of a canonical value. -/
def InstanceSpec.ofCanonical (j : Json) : InstanceSpec :=
  ⟨(j.get "address").text, (j.get "token_env").text⟩

/-- The mount or audit device of a canonical value. -/
def BackendSpec.ofCanonical (j : Json) : BackendSpec where
  path := (j.get "_path").text
  type := (j.get "type").text
  description := (j.get "description").text
  address := ((j.get "instance").get "address").text
  options := (j.get "options").members

/-- The policy of a canonical value. -/
def PolicySpec.ofCanonical (j : Json) : PolicySpec where
  name := (j.get "name").text
  type := (j.get "type").text
  description := (j.get "description").text
  address := ((j.get "instance").get "address").text
  rules := (j.get "rules").text

/-! ## Records with their members in order -/

/-- A mount or an audit device, its members in the order of its shape. -/
def BackendSpec.asRecord (b : BackendSpec) : Json :=
  .obj [("_path", .str b.path), ("type", .str b.type), ("description", .str b.description),
    ("instance", .obj [("address", .str b.address)]), ("options", Json.ofDict b.options)]

/-- A policy, its members in the order of its shape. -/
def PolicySpec.asRecord (p : PolicySpec) : Json :=
  .obj [("name", .str p.name), ("type", .str p.type), ("description", .str p.description),
    ("instance", .obj [("address", .str p.address)]), ("rules", .str p.rules)]

namespace Config

/-- A document, its members and theirs in the order of their shapes. -/
def asRecord (c : Config) : Json :=
  .obj [("instances", .arr (c.instances.map InstanceSpec.toJson)),
    ("vault_audit_backends", .arr (c.audits.map BackendSpec.asRecord)),
    ("vault_secret_engines", .arr (c.engines.map BackendSpec.asRecord)),
    ("vault_policies", .arr (c.policies.map PolicySpec.asRecord))]

/-- The JSON text of a document. -/
def toText (c : Config) : String := c.asRecord.compact

/-- The document of a canonical value. -/
def ofCanonical (j : Json) : Config where
  instances := (j.get "instances").items.map InstanceSpec.ofCanonical
  audits := (j.get "vault_audit_backends").items.map BackendSpec.ofCanonical
  engines := (j.get "vault_secret_engines").items.map BackendSpec.ofCanonical
  policies := (j.get "vault_policies").items.map PolicySpec.ofCanonical

/-- The document of a JSON value. -/
def ofJson? (j : Json) : Except Mismatch Config := (schema.read j).map ofCanonical

/-- The document of a JSON text. -/
def ofText? (s : String) : Option Config := (schema.ofText? s).map ofCanonical

/-- The document of a YAML text; errors name the file it comes from. -/
def parse (text : String) (source : Option String) : Except ConfigError Config :=
  match Yaml.Document.ofText? text with
  | none => .error (.malformed source)
  | some d =>
    match d.read schema with
    | .ok j => .ok (ofCanonical j)
    | .error problem => .error (.unreadable ("YAML parse error: " ++ problem.message) source)

end Config

end Concord
