/-
  Which token goes with which request, behind any transport.

  A call fails for lack of a token just if its address has none.  All calls of
  a run name configured addresses, and the tokens of a document are bound to
  these, each to the value of the variable of its own instance.  So this
  failure does not occur in a run, and every request carries the token of the
  instance whose address it was made from.

  * `Transport.Records`, `Http.carried_conducts`: what goes over a transport.
  * `Http.attempt_eq_noToken_iff`: which calls lack a token.
  * `Http.carries_of_mem_requests`: a request of an instance has its token.
  * `Run.tokens_complete_and_own`: tokens and requests in all runs over a
    document.
-/
import Concord.Proofs.Config.Tokens
import Concord.Proofs.Run.Containment
import Concord.Proofs.Run.Deletions
import Concord.Server.Http

namespace Concord

variable {σ : Type}

namespace Transport

/-- The state of a transport shows what it has carried. -/
def Records (transport : Transport σ) (carried : σ → List HttpRequest) : Prop :=
  ∀ request s, carried (transport request s).2 = carried s ++ [request]

/-- A transport that keeps what it carries, next to its state. -/
def recording (transport : Transport σ) : Transport (σ × List HttpRequest) :=
  fun request s => ((transport request s.1).1, (transport request s.1).2, s.2 ++ [request])

theorem records_recording (transport : Transport σ) :
    transport.recording.Records fun s => s.2 :=
  fun _ _ => rfl

end Transport

namespace Http

variable {tokens : Dict String} {transport : Transport σ} {address a : String}
  {operation : Operation} {call : Call} {request : HttpRequest} {carried : σ → List HttpRequest}

/-! ## Requests of calls -/

/-- The requests of a call: one, or none where it cannot be made. -/
def requests (tokens : Dict String) (call : Call) : List HttpRequest :=
  (prepare tokens call.address call.operation).toOption.toList

theorem mem_requests_iff :
    request ∈ requests tokens call ↔ prepare tokens call.address call.operation = .ok request := by
  unfold requests
  cases prepare tokens call.address call.operation <;> simp [Except.toOption, eq_comm]

theorem carried_send (h : transport.Records carried) (s : σ) :
    carried (send tokens transport address operation s).2 =
      carried s ++ requests tokens ⟨address, operation⟩ := by
  unfold send requests
  cases prepare tokens address operation with
  | error e => simp [Except.toOption]
  | ok request =>
    have hcarried := h request s
    rcases hr : transport request s with ⟨_ | response, s'⟩ <;>
      simpa [hr, Except.toOption] using hcarried

/-- An attempt of a call sends its requests. -/
theorem carried_attempt (h : transport.Records carried) (s : σ) (call : Call) :
    carried ((server tokens transport).attempt s call).2 = carried s ++ requests tokens call := by
  obtain ⟨address, q | m⟩ := call
  · exact carried_send h s
  · exact carried_send h s

/-- **What goes over a transport** in some exchanges: the requests of their
    calls, one after the other. -/
theorem carried_conducts (h : transport.Records carried) {es : List Exchange} {s s' : σ}
    (hes : (server tokens transport).Conducts es s s') :
    carried s' = carried s ++ es.flatMap fun e => requests tokens e.call := by
  induction hes with
  | nil s => simp
  | cons _ _ ih => rw [ih, carried_attempt h, List.flatMap_cons, List.append_assoc]

/-! ## Calls without a token -/

/-- What is said of a call at an address that has no token. -/
def noToken : String := "no token configured for instance"

theorem prepare_eq_noToken_iff (operation : Operation) :
    prepare tokens address operation = .error (.unauthorized a noToken) ↔
      a = address ∧ tokens.get? address = none := by
  unfold prepare
  cases tokens.get? address with
  | none => simp [noToken, eq_comm (a := a)]
  | some token =>
    cases h : Http.request address token operation.endpoint <;> simp [h, Except.mapError]

/-- A token that is rejected is not one that is missing. -/
theorem rejection_ne_noToken {status : Nat} {reason : String}
    (h : rejection? status = some reason) : s!"token rejected ({reason})" ≠ noToken := by
  unfold rejection? at h
  split at h
  · cases h
    decide
  · split at h <;> cases h
    decide

theorem accept_ne_noToken (r : HttpResponse) :
    accept address r ≠ .error (.unauthorized a noToken) := by
  unfold accept
  split
  · rename_i reason h
    simpa using fun _ => rejection_ne_noToken h
  · split <;> simp

/-- A failure that the second of two steps does not have is one of the first. -/
theorem bind_eq_error_iff {β γ : Type} {e : ServerError} {x : Except ServerError β}
    {f : β → Except ServerError γ} (hf : ∀ b, f b ≠ .error e) :
    x.bind f = .error e ↔ x = .error e := by
  cases x with
  | error e' => simp [Except.bind]
  | ok b => simp [Except.bind, hf b]

theorem answer_ne_noToken (q : Query) (r : HttpResponse) :
    answer address q r ≠ .error (.unauthorized a noToken) := by
  refine mt (bind_eq_error_iff fun r => ?_).1 (accept_ne_noToken r)
  split
  · cases q <;> simp [absent]
  · unfold decode
    split <;> simp

theorem effect_ne_noToken (m : Mutation) (r : HttpResponse) :
    effect address m r ≠ .error (.unauthorized a noToken) := by
  refine mt (bind_eq_error_iff fun r => ?_).1 (accept_ne_noToken r)
  split <;> simp

theorem send_eq_noToken_iff (s : σ) :
    (send tokens transport address operation s).1 = .error (.unauthorized a noToken) ↔
      a = address ∧ tokens.get? address = none := by
  rw [← prepare_eq_noToken_iff operation]
  unfold send
  cases prepare tokens address operation with
  | error e => simp
  | ok request =>
    rcases h : transport request s with ⟨_ | response, s'⟩ <;> simp [h]

/-- **A call fails for lack of a token** just if its address has none. -/
theorem attempt_eq_noToken_iff (s : σ) (call : Call) :
    ((server tokens transport).attempt s call).1 = some (.unauthorized a noToken) ↔
      a = call.address ∧ tokens.get? call.address = none := by
  obtain ⟨address, q | m⟩ := call
  · exact failure?_eq_some_iff.trans
      ((bind_eq_error_iff (answer_ne_noToken q)).trans (send_eq_noToken_iff s))
  · exact failure?_eq_some_iff.trans
      ((bind_eq_error_iff (effect_ne_noToken m)).trans (send_eq_noToken_iff s))

/-! ## Requests with tokens -/

/-- A request that is made for an instance carries the token of this instance. -/
structure Carries (x : InstanceSpec) (lookup : String → Option String) (call : Call)
    (request : HttpRequest) : Prop where
  url : (Url.ofText? (urlText x.address call.operation.endpoint.path)).map requestUrl =
    some request.url
  token : x.HasToken lookup request.token

theorem prepare_eq_ok (h : prepare tokens address operation = .ok request) :
    tokens.get? address = some request.token ∧
      (Url.ofText? (urlText address operation.endpoint.path)).map requestUrl =
        some request.url := by
  unfold prepare at h
  split at h
  · cases h
  · rename_i token htoken
    unfold Http.request at h
    cases hurl : Url.ofText? (urlText address operation.endpoint.path) with
    | none => simp [hurl, Except.mapError] at h
    | some u =>
      simp only [hurl] at h
      split at h
      · cases h
      · split at h
        · cases h
        · split at h <;> cases h
          exact ⟨htoken, rfl⟩

/-- **A request carries the token of its instance** if tokens are bound to the
    addresses of a document. -/
theorem carries_of_mem_requests {c : Config} {lookup : String → Option String} {x : InstanceSpec}
    (hc : c.BindsTokens lookup tokens) (hx : x ∈ c.instances) (ha : x.address = call.address)
    (h : request ∈ requests tokens call) : Carries x lookup call request := by
  obtain ⟨hget, hurl⟩ := prepare_eq_ok (mem_requests_iff.1 h)
  obtain ⟨token, hown, htoken⟩ := hc.own x hx
  obtain rfl : token = request.token := Option.some.inj (hown.symm.trans (ha ▸ hget))
  exact ⟨ha ▸ hurl, htoken⟩

end Http

/-! ## Runs -/

namespace Run

variable {c : Config} {lookup : String → Option String} {tokens : Dict String}

/-- What a session sends over a transport for the instances of a document. -/
structure Authorized (c : Config) (lookup : String → Option String) (tokens : Dict String)
    (transport : Transport σ) (w w' : World σ) (es : List Exchange) : Prop where
  exchanges : World.Exchanges (Http.server tokens transport) es w w'
  /-- All calls name instances of the document. -/
  addresses : ∀ e ∈ es, e.call.address ∈ c.addresses
  /-- No call fails for lack of a token. -/
  granted : ∀ e ∈ es, ∀ a, e.failure ≠ some (.unauthorized a Http.noToken)
  /-- What went over the transport are the requests of the calls. -/
  sent : ∀ carried, transport.Records carried →
    carried w'.server = carried w.server ++ es.flatMap fun e => Http.requests tokens e.call
  /-- The request of a call at an instance carries the token of this one. -/
  own : ∀ e ∈ es, ∀ request ∈ Http.requests tokens e.call, ∀ x ∈ c.instances,
    x.address = e.call.address → Http.Carries x lookup e.call request

/-- **A run is authorized** by the tokens of its document. -/
theorem authorized_perform (hc : c.BindsTokens lookup tokens) (transport : Transport σ)
    (dryRun : Bool) (poolSize : Nat) (schedule : List Move) (kinds : List KindName)
    (stamp : RunStamp) (w : World σ) (hw : w.registry.configured = c.addresses) :
    let ctx : Context σ := ⟨Http.server tokens transport, dryRun, poolSize, schedule⟩
    ∃ es, Authorized c lookup tokens transport w ((perform ctx c kinds stamp).after w) es := by
  intro ctx
  have hleads : Session.Keeps (World.Leads ctx.server) (perform ctx c kinds stamp) :=
    keeps_perform (fun _ _ => World.leads_of_eq rfl rfl) (fun _ _ => World.leads_of_eq rfl rfl)
      (fun _ => World.leads_of_eq rfl rfl) (fun k _ a => bears_leads ctx c k a) stamp
  obtain ⟨es, hes⟩ := hleads w
  obtain ⟨new, hnew, hconfigured⟩ : Issues (fun call => call.address ∈ w.registry.configured) w
      ((perform ctx c kinds stamp).after w) := issues_perform kinds stamp w
  obtain rfl : es.map (·.call) = new := List.append_cancel_left (hes.calls.symm.trans hnew)
  have haddresses : ∀ e ∈ es, e.call.address ∈ c.addresses := fun e he =>
    hw ▸ hconfigured e.call (List.mem_map_of_mem he)
  refine ⟨es, hes, haddresses, fun e he a hfailure => ?_,
    fun _ hcarried => Http.carried_conducts hcarried hes.conducts,
    fun e _ request hrequest x hx ha => Http.carries_of_mem_requests hc hx ha hrequest⟩
  obtain ⟨s, hs⟩ := hes.conducts.exists_attempt he
  obtain ⟨-, hnone⟩ := (Http.attempt_eq_noToken_iff s e.call).1 (hs.trans hfailure)
  obtain ⟨token, hsome⟩ := Dict.mem_keys_iff.1 ((hc.keys e.call.address).2 (haddresses e he))
  rw [hnone] at hsome
  cases hsome

/-- **Tokens are complete and stay with their instances.**  A document has
    tokens if every instance names a variable with a value that is not empty,
    and else the first one that does not is reported.  Tokens of an accepted
    document are bound to its addresses, and in every run over it no call lacks
    one and every request carries that of its own instance. -/
theorem tokens_complete_and_own (c : Config) (hc : c.Accepted)
    (lookup : String → Option String) :
    ((∃ tokens, c.tokens lookup = .ok tokens) ↔
        ∀ x ∈ c.instances, ∃ token, x.HasToken lookup token) ∧
      (∀ e, c.tokens lookup = .error e ↔
        FirstFailure (c.instances.map (Config.tokenCheck lookup)) e) ∧
      ∀ tokens, c.tokens lookup = .ok tokens → c.BindsTokens lookup tokens ∧
        ∀ (σ : Type) (transport : Transport σ) (dryRun : Bool) (poolSize : Nat)
          (schedule : List Move) (kinds : List KindName) (stamp : RunStamp) (w : World σ),
          w.registry.configured = c.addresses →
          let ctx : Context σ := ⟨Http.server tokens transport, dryRun, poolSize, schedule⟩
          ∃ es, Authorized c lookup tokens transport w
            ((perform ctx c kinds stamp).after w) es := by
  refine ⟨Config.exists_tokens_iff, fun _ => Config.tokens_eq_error_iff, fun tokens h => ?_⟩
  have hbinds := Config.binds_of_tokens_eq_ok hc h
  exact ⟨hbinds, fun _ transport dryRun poolSize schedule kinds stamp w hw =>
    authorized_perform hbinds transport dryRun poolSize schedule kinds stamp w hw⟩

theorem tokens_complete_and_own_two :
    let c : Config := ⟨[⟨"http://a", "TOKEN_A"⟩, ⟨"http://b", "TOKEN_B"⟩], [],
      [⟨"kv/", "kv", "", "http://b", Dict.empty⟩], []⟩
    let lookup := fun name => if name = "TOKEN_A" then some "first" else some "second"
    let transport : Transport (Unit × List HttpRequest) := Transport.offline.recording
    let w : World (Unit × List HttpRequest) := ⟨((), []), .ofAddresses c.addresses, [], []⟩
    c.Accepted ∧ ∃ tokens, c.tokens lookup = .ok tokens ∧ c.BindsTokens lookup tokens ∧
      let w' := (perform ⟨Http.server tokens transport, false, 2, []⟩ c everyKind
        ⟨"first", ⟨0, 0⟩, Decimal.zero false⟩).after w
      ∃ es, Authorized c lookup tokens transport w w' es ∧
        w'.server.2 = es.flatMap fun e => Http.requests tokens e.call := by
  intro c lookup transport w
  have haccepted : c.Accepted := ⟨_, rfl⟩
  obtain ⟨hcomplete, -, hruns⟩ := tokens_complete_and_own c haccepted lookup
  have hall : ∀ x ∈ c.instances, ∃ token, x.HasToken lookup token := by
    simp [c, lookup, InstanceSpec.HasToken]
  obtain ⟨tokens, htokens⟩ := hcomplete.2 hall
  obtain ⟨hbinds, hauthorized⟩ := hruns tokens htokens
  obtain ⟨es, hes⟩ := hauthorized _ transport false 2 [] everyKind
    ⟨"first", ⟨0, 0⟩, Decimal.zero false⟩ w rfl
  refine ⟨haccepted, tokens, htokens, hbinds, es, hes, ?_⟩
  exact hes.sent _ (Transport.records_recording Transport.offline)

end Run

end Concord
