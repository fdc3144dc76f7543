/-
  What a call comes to, by the status of its response.

  A response that says that there is nothing is let through for all calls and
  looked at by each of them, so a list is empty then and everything else fails.
  Any other status means the same to all calls, but for the success of a query,
  which must have an answer in its body.

  * `Http.settles_of_accept`: the statuses, for queries and mutations alike.
  * `Http.handles`: a call over a transport, from the request to the result.
  * `Http.classified_by_status`: all operations.
-/
import Concord.Proofs.Payload
import Concord.Proofs.Run.Credentials

namespace Concord

variable {σ α : Type}

/-- What a query comes to where there is nothing: a list is empty, and a policy
    is missing. -/
def Query.OfNothing (address : String) : (q : Query) → Except ServerError q.Answer → Prop
  | listPolicies, result => result = .ok []
  | readPolicy name, result =>
    result = .error (.rejected address 404 s!"policy {name} not found")
  | listEngines, result | listAudits, result => result = .ok Dict.empty

/-- What a query comes to after a success: the answer in the body, if there is
    one. -/
def Query.OfBody (address : String) (q : Query) (body : String)
    (result : Except ServerError q.Answer) : Prop :=
  (∀ answer, q.payload? body = some answer → result = .ok answer) ∧
    (q.payload? body = none → ∃ reason, result = .error (.invalidResponse address reason))

namespace Http

variable {address token : String} {tokens : Dict String} {transport : Transport σ}
  {operation : Operation} {request : HttpRequest} {r : HttpResponse} {e : SendError} {s s' : σ}
  {nothing success : Except ServerError α → Prop}

/-! ## Statuses -/

/-- A result is what the status of a response says; where there is nothing and
    after a success, this is left to the operation. -/
structure Settles (address : String) (r : HttpResponse)
    (nothing success : Except ServerError α → Prop) (result : Except ServerError α) : Prop where
  denied : r.status = 401 ∨ r.status = 403 → ∃ reason, result = .error (.unauthorized address reason)
  nothing : r.status = 404 → nothing result
  success : 200 ≤ r.status → r.status < 300 → success result
  failed : r.status ≠ 401 → r.status ≠ 403 → r.status ≠ 404 → r.status < 200 ∨ 300 ≤ r.status →
    result = .error (.rejected address r.status r.body)

theorem isSuccess_iff {status : Nat} : isSuccess status = true ↔ 200 ≤ status ∧ status < 300 := by
  simp [isSuccess]

/-- **A response settles a call** if the operation takes care of what is left to
    it. -/
theorem settles_of_accept {f : HttpResponse → Except ServerError α}
    (hnothing : r.status = 404 → nothing (f r)) (hsuccess : r.status ≠ 404 → success (f r)) :
    Settles address r nothing success ((accept address r).bind f) where
  denied h := by
    have hreject : ∃ reason, rejection? r.status = some reason := by
      rcases h with h | h
      · exact ⟨_, if_pos h⟩
      · exact ⟨_, by rw [rejection?, if_neg (by omega), if_pos h]⟩
    obtain ⟨reason, hreason⟩ := hreject
    have haccept : accept address r =
        .error (.unauthorized address s!"token rejected ({reason})") := by
      rw [accept, hreason]
    rw [haccept]
    exact ⟨_, rfl⟩
  nothing h := by
    have haccept : accept address r = .ok r := by simp [accept, rejection?, missing, h]
    rw [haccept]
    exact hnothing h
  success hle hlt := by
    have haccept : accept address r = .ok r := by
      have h401 : r.status ≠ 401 := by omega
      have h403 : r.status ≠ 403 := by omega
      simp [accept, rejection?, h401, h403, isSuccess_iff.2 ⟨hle, hlt⟩]
    rw [haccept]
    exact hsuccess (by omega)
  failed h401 h403 h404 h := by
    -- only a status that says that there is nothing is let through without being a success
    have hfail : ¬ (isSuccess r.status = true ∨ r.status = missing) := by
      rw [isSuccess_iff, missing]
      omega
    simp only [accept, rejection?, if_neg h401, if_neg h403, if_neg hfail]
    rfl

theorem settles_answer (address : String) (q : Query) (r : HttpResponse) :
    Settles address r (q.OfNothing address) (q.OfBody address r.body) (answer address q r) := by
  refine settles_of_accept (fun h => ?_) fun h => ?_
  · rw [missing, if_pos h]
    cases q <;> rfl
  · rw [missing, if_neg h]
    constructor
    · intro answer hanswer
      rw [decode, hanswer]
    · intro hnone
      rw [decode, hnone]
      exact ⟨_, rfl⟩

/-- What a mutation comes to where there is nothing: it fails. -/
def OfNothing (address : String) (result : Except ServerError Unit) : Prop :=
  ∃ reason, result = .error (.rejected address 404 reason)

/-- What a mutation comes to after a success, whatever the body. -/
def OfSuccess (result : Except ServerError Unit) : Prop := result = .ok ()

theorem settles_effect (address : String) (m : Mutation) (r : HttpResponse) :
    Settles address r (OfNothing address) OfSuccess (effect address m r) := by
  refine settles_of_accept (fun h => ?_) fun h => ?_
  · exact ⟨_, if_pos h⟩
  · exact if_neg h

/-- A mutation succeeds if the status is a success, and not otherwise. -/
theorem Settles.eq_ok_iff {result : Except ServerError Unit}
    (h : Settles address r (OfNothing address) OfSuccess result) :
    result = .ok () ↔ 200 ≤ r.status ∧ r.status < 300 := by
  constructor
  · rintro rfl
    by_contra hstatus
    by_cases hdenied : r.status = 401 ∨ r.status = 403
    · obtain ⟨reason, hreason⟩ := h.denied hdenied
      cases hreason
    · by_cases hnothing : r.status = 404
      · obtain ⟨reason, hreason⟩ := h.nothing hnothing
        cases hreason
      · cases h.failed (by omega) (by omega) hnothing (by omega)
  · rintro ⟨hle, hlt⟩
    exact h.success hle hlt

/-! ## Calls -/

theorem send_of_error (htoken : tokens.get? address = some token)
    (h : Http.request address token operation.endpoint = .error e) :
    send tokens transport address operation s = (.error (.unreachable address e.message), s) := by
  simp [send, prepare, htoken, h, Except.mapError]

theorem send_of_none (htoken : tokens.get? address = some token)
    (h : Http.request address token operation.endpoint = .ok request)
    (hnone : (transport request s).1 = none) :
    (send tokens transport address operation s).1 =
      .error (.unreachable address (SendError.unanswered request.url.text).message) := by
  rcases ht : transport request s with ⟨response, s'⟩
  obtain rfl : response = none := by rw [← hnone, ht]
  simp [send, prepare, htoken, h, ht, Except.mapError]

theorem send_of_some (htoken : tokens.get? address = some token)
    (h : Http.request address token operation.endpoint = .ok request)
    (hsome : (transport request s).1 = some r) :
    (send tokens transport address operation s).1 = .ok r := by
  rcases ht : transport request s with ⟨response, s'⟩
  obtain rfl : response = some r := by rw [← hsome, ht]
  simp [send, prepare, htoken, h, ht, Except.mapError]

/-- A call over a transport: what was sent before it, and its result with all
    that was sent after it. -/
structure Handles (transport : Transport σ) (address token : String) (operation : Operation)
    (s : σ) (sent : List HttpRequest) (nothing : Except ServerError α → Prop)
    (success : String → Except ServerError α → Prop)
    (call : Except ServerError α × σ × List HttpRequest) : Prop where
  /-- A request that cannot be made is not sent. -/
  unsent : ∀ e, Http.request address token operation.endpoint = .error e →
    call = (.error (.unreachable address e.message), s, sent)
  /-- Of any other call one request is sent. -/
  sent : ∀ request, Http.request address token operation.endpoint = .ok request →
    call.2.2 = sent ++ [request]
  unanswered : ∀ request, Http.request address token operation.endpoint = .ok request →
    (transport request s).1 = none → ∃ reason, call.1 = .error (.unreachable address reason)
  settled : ∀ request r, Http.request address token operation.endpoint = .ok request →
    (transport request s).1 = some r → Settles address r nothing (success r.body) call.1

/-- **A call is handled** if its responses settle it. -/
theorem handles {sent : List HttpRequest} {success : String → Except ServerError α → Prop}
    {f : HttpResponse → Except ServerError α} (htoken : tokens.get? address = some token)
    (hf : ∀ r, Settles address r nothing (success r.body) (f r)) :
    Handles transport address token operation s sent nothing success
      ((send tokens transport.recording address operation (s, sent)).1.bind f,
        (send tokens transport.recording address operation (s, sent)).2) where
  unsent e h := by
    rw [send_of_error htoken h]
    rfl
  sent request h := by
    -- what is sent follows from the operation alone, whether it is answered or not
    have hsent : (send tokens transport.recording address operation (s, sent)).2.2 =
        sent ++ requests tokens ⟨address, operation⟩ :=
      carried_send (Transport.records_recording transport) (s, sent)
    simpa [requests, prepare, htoken, h, Except.mapError, Except.toOption] using hsent
  unanswered request h hnone := by
    have hsend : (send tokens transport.recording address operation (s, sent)).1 = _ :=
      send_of_none htoken h hnone
    simp only [hsend]
    exact ⟨_, rfl⟩
  settled request r h hsome := by
    have hsend : (send tokens transport.recording address operation (s, sent)).1 = .ok r :=
      send_of_some htoken h hsome
    simp only [hsend]
    exact hf r

/-- **Calls are classified by the status of their responses**, at any address
    with a token, whatever was sent before.  So a mutation succeeds just if the
    status is a success; and an answer that is sent is the answer that is
    read. -/
theorem classified_by_status (htoken : tokens.get? address = some token)
    (transport : Transport σ) (s : σ) (sent : List HttpRequest) :
    (∀ q : Query, Handles transport address token (.query q) s sent (q.OfNothing address)
      (q.OfBody address) ((server tokens transport.recording).ask address q (s, sent))) ∧
      (∀ m : Mutation,
        Handles transport address token (.mutation m) s sent (OfNothing address)
            (fun _ => OfSuccess) ((server tokens transport.recording).change address m (s, sent)) ∧
          ∀ request r, Http.request address token (Operation.mutation m).endpoint = .ok request →
            (transport request s).1 = some r →
            (((server tokens transport.recording).change address m (s, sent)).1 = .ok () ↔
              200 ≤ r.status ∧ r.status < 300)) ∧
      ∀ (q : Query) (answer : q.Answer), q.Textual answer →
        q.payload? (Json.obj [("data", q.dataOf answer)]).compact = some answer := by
  refine ⟨fun q => ?_, fun m => ?_, fun q answer => q.payload?_of_textual⟩
  · exact handles htoken (settles_answer address q)
  · have hhandles : Handles transport address token (.mutation m) s sent (OfNothing address)
        (fun _ => OfSuccess) ((server tokens transport.recording).change address m (s, sent)) :=
      handles htoken (settles_effect address m)
    exact ⟨hhandles, fun request r h hr => (hhandles.settled request r h hr).eq_ok_iff⟩

/-- A transport that finds nothing anywhere. -/
def absentTransport : Transport Unit := fun _ s => (some ⟨404, "gone"⟩, s)

/-- Where there is nothing, a list is empty and a deletion fails, each with one
    request. -/
theorem classified_by_status_missing :
    let server := server (Dict.ofList [("http://[::1]", "t")]) absentTransport.recording
    let listed := server.ask "http://[::1]" .listPolicies ((), [])
    let deleted := server.change "http://[::1]" (.deletePolicy "p") ((), [])
    (Dict.ofList [("http://[::1]", "t")]).get? "http://[::1]" = some "t" ∧
      listed.1 = .ok [] ∧ listed.2.2.length = 1 ∧
      OfNothing "http://[::1]" deleted.1 ∧ deleted.2.2.length = 1 := by
  have htoken : (Dict.ofList [("http://[::1]", "t")]).get? "http://[::1]" = some "t" := by decide
  obtain ⟨hqueries, hmutations, -⟩ := classified_by_status htoken absentTransport () []
  have hquery := hqueries .listPolicies
  obtain ⟨hmutation, -⟩ := hmutations (.deletePolicy "p")
  have hlisted : ∃ request, Http.request "http://[::1]" "t"
      (Operation.query .listPolicies).endpoint = .ok request := ⟨_, rfl⟩
  have hdeleted : ∃ request, Http.request "http://[::1]" "t"
      (Operation.mutation (.deletePolicy "p")).endpoint = .ok request := ⟨_, rfl⟩
  obtain ⟨asked, hasked⟩ := hlisted
  obtain ⟨told, htold⟩ := hdeleted
  have hempty := (hquery.settled asked _ hasked rfl).nothing rfl
  have hfails := (hmutation.settled told _ htold rfl).nothing rfl
  have hasks := congrArg List.length (hquery.sent asked hasked)
  have htells := congrArg List.length (hmutation.sent told htold)
  exact ⟨htoken, hempty, hasks, hfails, htells⟩

end Http

end Concord
