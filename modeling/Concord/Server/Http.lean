/-
  Servers behind HTTP.

  Every call is one request to an endpoint under `/v1/` of the instance, with
  the token of the instance.  How a request is carried is left to a
  `Transport`, which may have no response.

  * `Operation.endpoint`: the method, the path and the body of each operation.
  * `Http.prepare`: the request of an operation, or why there can be none.
  * `Http.accept`: what a status means for every operation alike.  That there
    is nothing at an endpoint is left to the operation: a list is empty then,
    anything else fails.
  * `Http.server`: instances behind a transport as a server.
-/
import Concord.MountPath
import Concord.Server.Payload
import Concord.Url.Basic

namespace Concord

/-! ## Requests -/

/-- What a request does to its endpoint. -/
inductive HttpMethod where
  | get | put | post | delete
  deriving DecidableEq, Repr

/-- The name of a method. -/
def HttpMethod.name : HttpMethod → String
  | get => "GET"
  | put => "PUT"
  | post => "POST"
  | delete => "DELETE"

/-- A request. -/
structure HttpRequest where
  method : HttpMethod
  url : Url
  /-- The token, which is sent in the header `X-Vault-Token`. -/
  token : String
  body : Option Json

/-- A response. -/
structure HttpResponse where
  status : Nat
  body : String

/-- A way to carry requests, over a state; there may be no response. -/
abbrev Transport (σ : Type) := HttpRequest → σ → Option HttpResponse × σ

/-- The transport of a machine that reaches no other. -/
def Transport.offline {σ : Type} : Transport σ := fun _ s => (none, s)

/-! ## Endpoints -/

/-- What stands behind an operation: a method, a path below `/v1/`, and what is
    sent along. -/
structure Endpoint where
  method : HttpMethod
  path : String
  body : Option Json

namespace Operation

/-- The path of a policy. -/
def policyPath (name : String) : String := "sys/policies/acl/" ++ name

/-- The path of a mount. -/
def mountPath (path : String) : String := "sys/mounts/" ++ MountPath.segment path

/-- The path of an audit device. -/
def auditPath (path : String) : String := "sys/audit/" ++ MountPath.segment path

/-- The endpoint of an operation.  A mount that is tuned keeps its type, so
    none is sent. -/
def endpoint : Operation → Endpoint
  | query .listPolicies => ⟨.get, "sys/policies/acl?list=true", none⟩
  | query (.readPolicy name) => ⟨.get, policyPath name, none⟩
  | query .listEngines => ⟨.get, "sys/mounts", none⟩
  | query .listAudits => ⟨.get, "sys/audit", none⟩
  | mutation (.writePolicy name rules) =>
    ⟨.put, policyPath name, some (.obj [("policy", .str rules)])⟩
  | mutation (.deletePolicy name) => ⟨.delete, policyPath name, none⟩
  | mutation (.enableEngine path s) => ⟨.post, mountPath path, some s.toJson⟩
  | mutation (.tuneEngine path s) =>
    ⟨.post, mountPath path ++ "/tune", some { s with type := "" }.toJson⟩
  | mutation (.disableEngine path) => ⟨.delete, mountPath path, none⟩
  | mutation (.enableAudit path s) => ⟨.put, auditPath path, some s.toJson⟩
  | mutation (.disableAudit path) => ⟨.delete, auditPath path, none⟩

end Operation

namespace Http

/-- The address of an endpoint on an instance, as text. -/
def urlText (address path : String) : String :=
  Text.stripEnd MountPath.isSlash address ++ "/v1/" ++ Text.stripStart MountPath.isSlash path

/-! ## Sending -/

/-- Why a request has no response. -/
inductive SendError where
  /-- The request cannot be made; the URL is known if there is one. -/
  | unusable (url : Option String)
  /-- Nothing came back from a URL. -/
  | unanswered (url : String)
  deriving DecidableEq, Repr

/-- The sentence of a failed request. -/
def SendError.message : SendError → String
  | unusable none => "Request failed: builder error"
  | unusable (some url) => s!"Request failed: builder error for url ({url})"
  | unanswered url => s!"Request failed: error sending request for url ({url})"

/-- Whether a text may be the value of a header: it has no control characters
    other than tabs. -/
def isHeaderValue (s : String) : Bool :=
  s.toList.all fun c => c = '\t' || (0x20 ≤ c.toNat && c.toNat ≠ 0x7F)

/-- Whether a part of what a URL says of a user is text. -/
def isText (cs : List Char) : Bool := (Url.Percent.decodeText? cs).isSome

/-- The URL that a request is sent to: what it says of a user is sent apart.
    The name has to be text for that, and without a name the password has to
    be. -/
def requestUrl (u : Url) : Url :=
  let user := ((u.authority.map (·.user)).getD "").toList
  let name := user.takeWhile (· != ':')
  let password := (user.dropWhile (· != ':')).drop 1
  if isText name && (!name.isEmpty || isText password) then u.withoutUser else u

/-- The length in bytes up to which a URL can be sent. -/
def urlLimit : Nat := 65534

/-- Whether requests can be sent to a URL: by its scheme, its length and the
    characters of its host. -/
def isSendable (u : Url) : Bool :=
  (u.scheme == "http" || u.scheme == "https") && u.text.utf8ByteSize ≤ urlLimit &&
    u.authority.all fun a => a.host.text.toList.all fun c => !(c ∈ ['"', '\x60', '\x7b', '\x7d'])

/-- The request to an endpoint of an instance, or why it cannot be made. -/
def request (address token : String) (e : Endpoint) : Except SendError HttpRequest :=
  match Url.ofText? (urlText address e.path) with
  | none => .error (.unusable none)
  | some u =>
    if !u.hasHost then .error (.unusable (some u.text))
    else if !isHeaderValue token then .error (.unusable none)
    else
      let u := requestUrl u
      if isSendable u then .ok ⟨e.method, u, token, e.body⟩ else .error (.unusable (some u.text))

/-- The request of an operation on an instance, or why there can be none. -/
def prepare (tokens : Dict String) (address : String) (operation : Operation) :
    Except ServerError HttpRequest :=
  match tokens.get? address with
  | none => .error (.unauthorized address "no token configured for instance")
  | some token =>
    (request address token operation.endpoint).mapError fun e => .unreachable address e.message

/-! ## Responses -/

/-- A status with its reason, where it says that a token is no good. -/
def rejection? (status : Nat) : Option String :=
  if status = 401 then some "401 Unauthorized"
  else if status = 403 then some "403 Forbidden"
  else none

/-- Whether a status says that all went well. -/
def isSuccess (status : Nat) : Bool := 200 ≤ status && status < 300

/-- The status that says that there is nothing at an endpoint. -/
def missing : Nat := 404

/-- A response that is left to the operation: a success, or one that says that
    there is nothing at the endpoint. -/
def accept (address : String) (r : HttpResponse) : Except ServerError HttpResponse :=
  match rejection? r.status with
  | some reason => .error (.unauthorized address s!"token rejected ({reason})")
  | none =>
    if isSuccess r.status ∨ r.status = missing then .ok r
    else .error (.rejected address r.status r.body)

/-- The answer to a query where there is nothing at its endpoint. -/
def absent (address : String) : (q : Query) → Except ServerError q.Answer
  | .listPolicies => .ok []
  | .readPolicy name => .error (.rejected address missing s!"policy {name} not found")
  | .listEngines => .ok Dict.empty
  | .listAudits => .ok Dict.empty

/-- The answer to a query in the body of a response. -/
def decode (address : String) (q : Query) (body : String) : Except ServerError q.Answer :=
  match q.payload? body with
  | some answer => .ok answer
  | none => .error (.invalidResponse address
      "Failed to parse response: error decoding response body")

/-- The answer to a query in a response. -/
def answer (address : String) (q : Query) (r : HttpResponse) : Except ServerError q.Answer := do
  let r ← accept address r
  if r.status = missing then absent address q else decode address q r.body

/-- The effect of a mutation, from its response. -/
def effect (address : String) (m : Mutation) (r : HttpResponse) : Except ServerError Unit := do
  let r ← accept address r
  if r.status = missing then
    .error (.rejected address missing s!"{(Operation.mutation m).endpoint.path} not found")
  else .ok ()

/-! ## Servers -/

variable {σ : Type}

/-- The response to an operation on an instance; at most one request is
    sent. -/
def send (tokens : Dict String) (transport : Transport σ) (address : String)
    (operation : Operation) (s : σ) : Except ServerError HttpResponse × σ :=
  match prepare tokens address operation with
  | .error e => (.error e, s)
  | .ok request =>
    match transport request s with
    | (some response, s) => (.ok response, s)
    | (none, s) =>
      (.error (.unreachable address (SendError.unanswered request.url.text).message), s)

/-- Instances behind a transport, each with its token. -/
def server (tokens : Dict String) (transport : Transport σ) : Server σ where
  ask address q s :=
    let (response, s) := send tokens transport address (.query q) s
    (response.bind (answer address q), s)
  change address m s :=
    let (response, s) := send tokens transport address (.mutation m) s
    (response.bind (effect address m), s)

end Http

end Concord
