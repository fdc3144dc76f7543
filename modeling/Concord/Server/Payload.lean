/-
  The values that servers answer with.

  * `BackendRecord.schema`: the shape of a mount or audit device, which
    `BackendRecord.ofJson?` reads from a value and `BackendRecord.ofText?` from
    a text.
  * `Query.payload?`: the answer to a query, from the `data` of a response.
-/
import Concord.Schema.Reader
import Concord.Server.Basic

namespace Concord

/-- The shape of a mount or audit device. -/
def BackendRecord.schema : Shape :=
  .record "BackendInfo"
    [("type", .text, none), ("description", .text, some (.str "")),
      ("options", .dict true .any, some .null)]

/-- The mount or audit device of a canonical value. -/
def BackendRecord.ofCanonical (j : Json) : BackendRecord where
  type := (j.get "type").text
  description := (j.get "description").text
  options :=
    match j.get "options" with
    | .null => none
    | raw => some raw.members

/-- The mount or audit device of a JSON value. -/
def BackendRecord.ofJson? (j : Json) : Except Mismatch BackendRecord :=
  (BackendRecord.schema.read j).map BackendRecord.ofCanonical

/-- The mount or audit device of a JSON text. -/
def BackendRecord.ofText? (s : String) : Option BackendRecord :=
  (BackendRecord.schema.ofText? s).map BackendRecord.ofCanonical

namespace Query

/-- The shape of a list of names. -/
def namesSchema : Shape := .record "KeyList" [("keys", .list .text, some (.arr []))]

/-- The shape of a policy. -/
def policySchema : Shape := .record "PolicyBody" [("policy", .text, some (.str ""))]

/-- The shape of the data that answers a query. -/
def dataSchema : Query → Shape
  | listPolicies => namesSchema
  | readPolicy _ => policySchema
  | listEngines | listAudits => .dict false BackendRecord.schema

/-- The shape of a response to a query. -/
def responseSchema (q : Query) : Shape := .record "DataResponse" [("data", q.dataSchema, none)]

/-- The answer in data of canonical form. -/
def ofCanonical : (q : Query) → Json → q.Answer
  | listPolicies, j => (j.get "keys").items.map Json.text
  | readPolicy _, j => (j.get "policy").text
  | listEngines, j | listAudits, j => j.members.map BackendRecord.ofCanonical

/-- The answer to a query in the body of a response. -/
def payload? (q : Query) (body : String) : Option q.Answer :=
  (q.responseSchema.ofText? body).map fun j => q.ofCanonical (j.get "data")

end Query

end Concord
