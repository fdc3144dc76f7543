/-
  Servers: what an instance can be asked and told.

  A call names the address of an instance.  A `Query` has an answer and changes
  nothing; a `Mutation` changes the instance and has no answer.  A `Server` is
  any behaviour towards calls over a state of its own, and every call may fail.
-/
import Concord.Error
import Concord.Options

namespace Concord

/-! ## Backends -/

/-- A mount or an audit device as an instance lists it. -/
structure BackendRecord where
  /-- The type of the backend. -/
  type : String
  description : String
  /-- The options in any type, if there are any. -/
  options : Option (Dict Json)

/-- The settings that enable or tune a mount or an audit device. -/
structure BackendSettings where
  /-- The type of the backend; empty where it stays as it is. -/
  type : String
  description : String
  options : Options
  deriving DecidableEq

namespace BackendRecord

instance : Inhabited BackendRecord := ⟨"", "", none⟩

/-- The options as texts. -/
def normalizedOptions (r : BackendRecord) : Options :=
  match r.options with
  | some raw => Options.ofRaw raw
  | none => Dict.empty

/-- A record as a JSON object. -/
def toJson (r : BackendRecord) : Json :=
  .obj [("description", .str r.description),
    ("options", match r.options with | some raw => Json.ofDict raw | none => .null),
    ("type", .str r.type)]

end BackendRecord

namespace BackendSettings

/-- Settings as a JSON object, without a type where it is empty. -/
def toJson (s : BackendSettings) : Json :=
  .obj ((if s.type.isEmpty then [] else [("type", .str s.type)]) ++
    [("description", .str s.description), ("options", s.options.toJson)])

end BackendSettings

/-! ## Calls -/

/-- A call that reads. -/
inductive Query where
  | listPolicies
  | readPolicy (name : String)
  | listEngines
  | listAudits
  deriving DecidableEq

/-- What a query is answered with. -/
abbrev Query.Answer : Query → Type
  | listPolicies => List String
  | readPolicy _ => String
  | listEngines | listAudits => Dict BackendRecord

/-- A call that changes an instance. -/
inductive Mutation where
  | writePolicy (name rules : String)
  | deletePolicy (name : String)
  | enableEngine (path : String) (settings : BackendSettings)
  | tuneEngine (path : String) (settings : BackendSettings)
  | disableEngine (path : String)
  | enableAudit (path : String) (settings : BackendSettings)
  | disableAudit (path : String)
  deriving DecidableEq

/-- What is asked of an instance. -/
inductive Operation where
  | query (q : Query)
  | mutation (m : Mutation)
  deriving DecidableEq

/-- A call to an instance. -/
structure Call where
  address : String
  operation : Operation
  deriving DecidableEq

/-- The name of an operation. -/
def Operation.name : Operation → String
  | query .listPolicies => "list_policies"
  | query (.readPolicy _) => "read_policy"
  | query .listEngines => "list_secrets_engines"
  | query .listAudits => "list_audit_devices"
  | mutation (.writePolicy ..) => "write_policy"
  | mutation (.deletePolicy _) => "delete_policy"
  | mutation (.enableEngine ..) => "enable_secrets_engine"
  | mutation (.tuneEngine ..) => "tune_secrets_engine"
  | mutation (.disableEngine _) => "disable_secrets_engine"
  | mutation (.enableAudit ..) => "enable_audit_device"
  | mutation (.disableAudit _) => "disable_audit_device"

/-- The object that an operation is about: the name of a policy or a path. -/
def Operation.key? : Operation → Option String
  | query (.readPolicy name) => some name
  | query _ => none
  | mutation (.writePolicy key _) | mutation (.deletePolicy key)
  | mutation (.enableEngine key _) | mutation (.tuneEngine key _) | mutation (.disableEngine key)
  | mutation (.enableAudit key _) | mutation (.disableAudit key) => some key

/-- What an operation sends along. -/
def Operation.body? : Operation → Option Json
  | mutation (.writePolicy _ rules) => some (.str rules)
  | mutation (.enableEngine _ s) | mutation (.tuneEngine _ s) | mutation (.enableAudit _ s) =>
    some s.toJson
  | _ => none

/-! ## Servers -/

/-- A behaviour towards calls, over a state. -/
structure Server (σ : Type) where
  /-- The answer to a query at an address. -/
  ask : String → (q : Query) → σ → Except ServerError q.Answer × σ
  /-- The effect of a mutation at an address. -/
  change : String → Mutation → σ → Except ServerError Unit × σ

end Concord
