import ResourceLookup.Proofs.Exchange
import ResourceLookup.Proofs.Loading
import ResourceLookup.Proofs.Verdict

/-!
# Network calls

The three operations that send a request of their own, as one type. A `NetworkCall` has a target
(`NetworkCall.target`), a method, and responses that it intercepts (`NetworkCall.hit?`): a GET
request for a document intercepts recoverable errors, one for a user's address all failed responses,
and a POST request none.

Which outcomes lead to another attempt (`Outcome.isRetryable`) and what a call returns for its last
outcome (`Client.answerTo`) are said here once, apart from the loop that sends requests.
`NetworkCall.perform_of_loaded` ties the two together: a call whose headers are there makes a number
of repetitions, and then answers to its last outcome. `NetworkCall.course` adds the three ways in
which a call ends before it sends anything.

The last outcome of a call can be read off the trace (`NetworkCall.LastConsumed`). A call that
consumed one answers to it, and one that consumed none fails with a mistake in the configuration
(`NetworkCall.answers_last`, `NetworkCall.answer_of_lastConsumed`; where the address matters,
`NetworkCall.answers_last_at_target`, `NetworkCall.answer_at_target_of_lastConsumed`).

`plainSession` is a client with nothing of its own configured, for the cases of later theorems.
-/

set_option autoImplicit false
set_option relaxedAutoImplicit false

namespace ResourceLookup

open Session

/-! ### What outcomes mean -/

/-- The remote was not reached, or not in time. -/
def TransportError.isUnreached : TransportError → Bool
  | .timeout _ | .connect _ | .io _ => true
  | .malformed _ _ | .bodyTooLarge _ _ | .invalidUri _ _ => false

/-- Whether an outcome leads to another attempt: the remote was not reached, or it answered with a
failed response that is not intercepted and whose normalized status is a server error. -/
def Outcome.isRetryable (hit? : Response → Option Fetched) : Outcome → Bool
  | .ok response =>
    !response.isSuccess && (hit? response).isNone &&
      (normalizeStatus response.rawStatus response.hasErrors).isServerError
  | .error error => error.isUnreached

namespace Client

/-- The failure of a call whose request ended in a transport error. -/
def failureOf (client : Client) (url : String) : TransportError → ServiceError
  | .malformed status cause =>
    client.unusableResponse url status client.malformedDetail (CauseChain.ofList "" cause.chain)
  | .bodyTooLarge status limit =>
    client.unusableResponse url status (TransportError.bodyTooLarge status limit).message
      (TransportError.bodyTooLarge status limit).chain
  | .invalidUri bad reason =>
    client.unusableResponse url none (TransportError.invalidUri bad reason).message
      (TransportError.invalidUri bad reason).chain
  | .timeout limit => client.transportFailure url (.timeout limit)
  | .connect cause => client.transportFailure url (.connect cause)
  | .io cause => client.transportFailure url (.io cause)

/-- What a call returns whose last outcome is the given one. -/
def answerTo (client : Client) (url : String) (hit? : Response → Option Fetched) :
    Outcome → Except RemoteError Fetched
  | .ok response =>
    if response.isSuccess then .ok (.document response)
    else
      match hit? response with
      | some hit => .ok hit
      | none => .error (.service (client.responseError url response))
  | .error error => .error (.service (client.failureOf url error))

/-- What a call reports at its end whose last outcome is the given one. -/
def closingFor (client : Client) (url : String) (hit? : Response → Option Fetched)
    (onHit : List Event) : Outcome → List Event
  | .ok response =>
    if response.isSuccess then []
    else if (hit? response).isSome then onHit
    else [(client.responseError url response).event]
  | .error error => [(client.failureOf url error).event]

end Client

/-- What a call returns whose last verdict this is, `wrap` telling what an interception brings. -/
def Verdict.answer {α : Type} (wrap : α → Fetched) : Verdict α → Except RemoteError Fetched
  | .done response => .ok (.document response)
  | .intercepted hit => .ok (wrap hit)
  | .final error | .retryable error => .error (.service error)

/-- What a call reports at its end whose last verdict this is. -/
def Verdict.closingWith {α : Type} (onHit : List Event) : Verdict α → List Event
  | .done _ => []
  | .intercepted _ => onHit
  | .final error | .retryable error => [error.event]

section Judging

variable {α : Type} {intercept : Response → Option α} {hit? : Response → Option Fetched}
  (client : Client) (url : String)

/-- The verdict on an outcome agrees with what the outcome means. Assumes: interceptions that bring
what `hit?` says. -/
theorem judge_agrees (wrap : α → Fetched)
    (hwrap : ∀ response, (intercept response).map wrap = hit? response)
    (onHit : List Event) (outcome : Outcome) :
    (client.judge url intercept outcome).isRetryable = outcome.isRetryable hit? ∧
      (client.judge url intercept outcome).answer wrap = client.answerTo url hit? outcome ∧
      (client.judge url intercept outcome).closingWith onHit =
        client.closingFor url hit? onHit outcome := by
  cases outcome with
  | error error => cases error <;> exact ⟨rfl, rfl, rfl⟩
  | ok response =>
    simp only [Client.judge, Outcome.isRetryable, Client.answerTo, Client.closingFor,
      ← hwrap response, ← client.responseError_status url response]
    by_cases hsuccess : response.isSuccess = true
    · simp [hsuccess, Verdict.isRetryable, Verdict.answer, Verdict.closingWith]
    · cases intercept response with
      | some hit => simp [hsuccess, Verdict.isRetryable, Verdict.answer, Verdict.closingWith]
      | none =>
        by_cases hserver : (client.responseError url response).status.isServerError = true <;>
          simp [hsuccess, hserver, Verdict.isRetryable, Verdict.answer, Verdict.closingWith]

/-- Judging looks at nothing of a client but the name of its service. -/
theorem judge_congr {other : Client} (hservice : client.service = other.service)
    (outcome : Outcome) :
    client.judge url intercept outcome = other.judge url intercept outcome := by
  have hresponse : ∀ response,
      client.responseError url response = other.responseError url response := by
    intro response
    rw [Client.responseError, Client.responseError, hservice]
  have hdetail : client.malformedDetail = other.malformedDetail :=
    congrArg ("Malformed response from " ++ ·) hservice
  have hunusable : ∀ status detail source, client.unusableResponse url status detail source =
      other.unusableResponse url status detail source := by
    intro status detail source
    rw [Client.unusableResponse, Client.unusableResponse, hservice]
  have hunreached : ∀ error,
      client.transportFailure url error = other.transportFailure url error := by
    intro error
    rw [Client.transportFailure, Client.transportFailure, hservice]
  cases outcome with
  | ok response => simp only [Client.judge, hresponse]
  | error error =>
    cases error with
    | malformed status cause => simp only [Client.judge, hdetail, hunusable]
    | bodyTooLarge status limit => simp only [Client.judge, hunusable]
    | invalidUri bad reason => simp only [Client.judge, hunusable]
    | timeout limit => exact congrArg Verdict.retryable (hunreached _)
    | connect cause => exact congrArg Verdict.retryable (hunreached _)
    | io cause => exact congrArg Verdict.retryable (hunreached _)

end Judging

/-! ### The calls -/

/-- An operation that sends a request of its own. -/
inductive NetworkCall where
  | get (path : String)
  | getUserUrl (path : String)
  | post (path : String) (body : Json)

/-- A response as a call returns it that intercepts nothing. -/
def asFetched : Except RemoteError Response × Session → Except RemoteError Fetched × Session
  | (.error error, session) => (.error error, session)
  | (.ok response, session) => (.ok (.document response), session)

namespace NetworkCall

/-- The call made on a session. -/
def perform (call : NetworkCall) (session : Session) : Except RemoteError Fetched × Session :=
  match call with
  | .get path => session.get path
  | .getUserUrl path => asFetched (session.getUserUrl path)
  | .post path body => asFetched (session.post path body)

/-- The address that a call asks for; only an address given by a user may leave the origin of the
base address. -/
def target (call : NetworkCall) (client : Client) : Except ConfigurationError String :=
  match call with
  | .get path | .post path _ => client.scopedUrl path
  | .getUserUrl path => .ok (client.urlFor path)

/-- The method of the requests of a call, with the body. -/
def method : NetworkCall → Call
  | .get _ | .getUserUrl _ => .get
  | .post _ body => .post body

/-- What a call makes of a failed response that it intercepts. -/
def hit? (call : NetworkCall) (client : Client) (response : Response) : Option Fetched :=
  match call with
  | .get _ => (recoverable? client.patterns response).map .recoverable
  | .getUserUrl _ => some (.document response)
  | .post _ _ => none

/-- What a call reports when it intercepts a response. -/
def onHit : NetworkCall → List Event
  | .get _ => [.recoverableMatched]
  | .getUserUrl _ => [.errorDocumentReturned]
  | .post _ _ => []

/-- Whether an outcome makes a call send its request again. -/
def isRetryable (call : NetworkCall) (client : Client) (outcome : Outcome) : Bool :=
  outcome.isRetryable (call.hit? client)

/-- What a call to an address returns whose last outcome is the given one. -/
def answerTo (call : NetworkCall) (client : Client) (url : String) (outcome : Outcome) :
    Except RemoteError Fetched :=
  client.answerTo url (call.hit? client) outcome

/-- What a call to an address reports at its end whose last outcome is the given one. -/
def closingFor (call : NetworkCall) (client : Client) (url : String) (outcome : Outcome) :
    List Event :=
  client.closingFor url (call.hit? client) call.onHit outcome

/-- The session at the end of a call to an address that repeated its request so many times. -/
def ended (call : NetworkCall) (client : Client) (transport : Transport) (request : Request)
    (loaded : Session) (count : Nat) : Session :=
  ((loaded.repeatedTimes request 0 count).attempted request).reportAll
    (call.closingFor client request.url (nextOutcome transport request loaded count))

end NetworkCall

/-! ### The course of a call -/

section Course

variable {α : Type} {transport : Transport} {url : String} {headers : HeaderMap}
  {session loaded : Session} {count : Nat}

/-- How a call goes on after its exchange, `wrap` telling what an interception brings. -/
def resume (wrap : α → Fetched) (onHit : List Event) :
    Except RemoteError (Answer α) × Session → Except RemoteError Fetched × Session
  | (.error error, session) => (.error error, session)
  | (.ok (.document response), session) => (.ok (.document response), session)
  | (.ok (.intercepted hit), session) => (.ok (wrap hit), session.reportAll onHit)

/-- Behind an exchange a call returns and reports what its last verdict says. -/
theorem resume_verdict (wrap : α → Fetched) (onHit : List Event) (verdict : Verdict α)
    (session : Session) :
    resume wrap onHit
        (verdict.conclusion.mapError .service, session.reportAll verdict.closing) =
      (verdict.answer wrap, session.reportAll (verdict.closingWith onHit)) := by
  cases verdict with
  | intercepted hit =>
    show (Except.ok (wrap hit), (session.reportAll []).reportAll onHit) = _
    rw [reportAll_nil]
    rfl
  | _ => rfl

/-- A call whose target is admitted is a run on that target, whatever its type of interceptions. -/
theorem NetworkCall.perform_eq_resume (call : NetworkCall) (session : Session)
    (htarget : call.target session.client = .ok url) :
    ∃ (α : Type) (intercept : Response → Option α) (wrap : α → Fetched),
      (∀ response, (intercept response).map wrap = call.hit? session.client response) ∧
      call.perform session = resume wrap call.onHit (run url call.method intercept session) := by
  cases call with
  | get path =>
    have hscoped : session.client.scopedUrl path = .ok url := htarget
    refine ⟨RecoverableError, recoverable? session.client.patterns, .recoverable, fun _ ↦ rfl, ?_⟩
    simp only [perform, Session.get, hscoped, method]
    rcases run url .get (recoverable? session.client.patterns) session with
      ⟨_ | _ | _, after⟩ <;> rfl
  | getUserUrl path =>
    obtain rfl : session.client.urlFor path = url := Except.ok.inj htarget
    refine ⟨Response, some, .document, fun _ ↦ rfl, ?_⟩
    simp only [perform, Session.getUserUrl, method]
    rcases run (session.client.urlFor path) .get some session with ⟨_ | _ | _, after⟩ <;> rfl
  | post path body =>
    have hscoped : session.client.scopedUrl path = .ok url := htarget
    refine ⟨Empty, interceptNothing, Empty.elim, fun _ ↦ rfl, ?_⟩
    simp only [perform, Session.post, hscoped, method]
    rcases run url (.post body) interceptNothing session with ⟨_ | _ | hit, after⟩
    · rfl
    · rfl
    · exact hit.elim

/-- A run whose headers are there is an exchange. Assumes: a count of rounds at which repeating on
the verdicts stops. -/
theorem run_of_loaded (call : Call) (intercept : Response → Option α)
    (htransport : session.client.transport = some transport)
    (hheaders : session.ensureHeaders = (.ok headers, loaded))
    (hstops : StopsAt
      (fun i ↦ (nextVerdict transport ⟨call, url, headers⟩ intercept loaded i).isRetryable)
      loaded.client.settings.retry.retries count) :
    run url call intercept session =
      ((nextVerdict transport ⟨call, url, headers⟩ intercept loaded count).conclusion.mapError
          .service,
        ((loaded.repeatedTimes ⟨call, url, headers⟩ 0 count).attempted
          ⟨call, url, headers⟩).reportAll
            (nextVerdict transport ⟨call, url, headers⟩ intercept loaded count).closing) := by
  simp only [run, htransport, hheaders]
  rw [exchange_eq transport ⟨call, url, headers⟩ intercept 0 _ count loaded hstops, settle,
    nextVerdict_repeatedTimes]
  cases nextVerdict transport ⟨call, url, headers⟩ intercept loaded count <;> rfl

/-- A call whose headers are there repeats its request as long as the outcomes make it and
repetitions are left, and answers to its last outcome. -/
theorem NetworkCall.perform_of_loaded (call : NetworkCall)
    (htransport : session.client.transport = some transport)
    (htarget : call.target session.client = .ok url)
    (hheaders : session.ensureHeaders = (.ok headers, loaded))
    (hstops : StopsAt
      (fun i ↦ call.isRetryable session.client
        (nextOutcome transport ⟨call.method, url, headers⟩ loaded i))
      session.client.settings.retry.retries count) :
    call.perform session =
      (call.answerTo session.client url
          (nextOutcome transport ⟨call.method, url, headers⟩ loaded count),
        call.ended session.client transport ⟨call.method, url, headers⟩ loaded count) := by
  obtain ⟨α, intercept, wrap, hwrap, hperform⟩ := call.perform_eq_resume session htarget
  have hsetup := (loading_of_eq hheaders).sameSetup
  have hverdict : ∀ i,
      nextVerdict transport ⟨call.method, url, headers⟩ intercept loaded i =
        session.client.judge url intercept
          (nextOutcome transport ⟨call.method, url, headers⟩ loaded i) :=
    fun i ↦ (judge_congr session.client url hsetup.service _).symm
  have hagrees := fun i ↦ judge_agrees session.client url wrap hwrap call.onHit
    (nextOutcome transport ⟨call.method, url, headers⟩ loaded i)
  have hverdicts : StopsAt
      (fun i ↦
        (nextVerdict transport ⟨call.method, url, headers⟩ intercept loaded i).isRetryable)
      loaded.client.settings.retry.retries count := by
    simp only [hverdict, (hagrees _).1, ← hsetup.settings]
    exact hstops
  rw [hperform, run_of_loaded call.method intercept htransport hheaders hverdicts,
    resume_verdict, hverdict, (hagrees count).2.1, (hagrees count).2.2]
  rfl

/-- The ways in which a call goes: it is sent astray, there is no transport, the headers cannot be
loaded, or its request is sent. -/
inductive NetworkCall.Course (call : NetworkCall) (session : Session) :
    Except RemoteError Fetched → Session → Prop where
  | astray (error : ConfigurationError) (htarget : call.target session.client = .error error) :
      Course call session (.error (.configuration error)) session
  | disconnected (url : String) (htarget : call.target session.client = .ok url)
      (htransport : session.client.transport = none) :
      Course call session
        (.error (.configuration (.transportNotInitialized session.client.service))) session
  | unloaded (url : String) (transport : Transport) (error : ConfigurationError)
      (loaded : Session) (htarget : call.target session.client = .ok url)
      (htransport : session.client.transport = some transport)
      (hheaders : session.ensureHeaders = (.error error, loaded)) :
      Course call session (.error (.configuration error)) loaded
  | exchanged (url : String) (transport : Transport) (headers : HeaderMap) (loaded : Session)
      (count : Nat) (htarget : call.target session.client = .ok url)
      (htransport : session.client.transport = some transport)
      (hheaders : session.ensureHeaders = (.ok headers, loaded))
      (hstops : StopsAt
        (fun i ↦ call.isRetryable session.client
          (nextOutcome transport ⟨call.method, url, headers⟩ loaded i))
        session.client.settings.retry.retries count) :
      Course call session
        (call.answerTo session.client url
          (nextOutcome transport ⟨call.method, url, headers⟩ loaded count))
        (call.ended session.client transport ⟨call.method, url, headers⟩ loaded count)

/-- A call whose target is not admitted does nothing. -/
theorem NetworkCall.perform_of_target_error (call : NetworkCall) {error : ConfigurationError}
    (htarget : call.target session.client = .error error) :
    call.perform session = (.error (.configuration error), session) := by
  cases call with
  | get path =>
    have hscoped : session.client.scopedUrl path = .error error := htarget
    simp only [perform, Session.get, hscoped]
  | getUserUrl path => cases htarget
  | post path body =>
    have hscoped : session.client.scopedUrl path = .error error := htarget
    simp only [perform, Session.post, hscoped, asFetched]

/-- A call goes one of the four ways. -/
theorem NetworkCall.course (call : NetworkCall) (session : Session) :
    call.Course session (call.perform session).1 (call.perform session).2 := by
  cases htarget : call.target session.client with
  | error error =>
    rw [call.perform_of_target_error htarget]
    exact .astray error htarget
  | ok url =>
    obtain ⟨α, intercept, wrap, hwrap, hperform⟩ := call.perform_eq_resume session htarget
    cases htransport : session.client.transport with
    | none =>
      rw [hperform, run, htransport]
      exact .disconnected url htarget htransport
    | some transport =>
      cases hheaders : session.ensureHeaders with
      | mk result loaded =>
        cases result with
        | error error =>
          rw [hperform, run, htransport]
          simp only [hheaders]
          exact .unloaded url transport error loaded htarget htransport hheaders
        | ok headers =>
          obtain ⟨count, hstops⟩ := StopsAt.exists_count
            (fun i ↦ call.isRetryable session.client
              (nextOutcome transport ⟨call.method, url, headers⟩ loaded i))
            session.client.settings.retry.retries
          rw [call.perform_of_loaded htransport htarget hheaders hstops]
          exact .exchanged url transport headers loaded count htarget htransport hheaders hstops

end Course

/-! ### What a call sends -/

section Sending

variable (call : NetworkCall) (client : Client) (transport : Transport) (request : Request)
  (loaded : Session) (count : Nat)

/-- On the wire, a call is its request once more than it repeats it, with a pause between each
two. -/
theorem NetworkCall.wireIn_ended :
    wireIn (call.ended client transport request loaded count).trace =
      wireIn loaded.trace ++ ((List.range count).flatMap fun i ↦
        [.sent request,
          .slept (loaded.client.drawnPause i ((pausesIn loaded.trace).length + i))]) ++
        [.sent request] := by
  simp only [ended, reportAll_trace, attempted_trace, wireIn_append, wireIn_map_event,
    wireIn_announcement, wireIn_repeatedTimes, List.nil_append, List.append_nil, Nat.zero_add]
  rfl

/-- A call sends its request once more than it repeats it. -/
theorem NetworkCall.requestsIn_ended :
    requestsIn (call.ended client transport request loaded count).trace =
      requestsIn loaded.trace ++ List.replicate (count + 1) request := by
  have hsent : requestsIn [.sent request] = [request] := rfl
  simp only [ended, reportAll_trace, attempted_trace, requestsIn_append, requestsIn_map_event,
    requestsIn_announcement, requestsIn_repeatedTimes, hsent, List.nil_append, List.append_nil,
    List.append_assoc, List.replicate_succ']

/-- The pauses among requests with a pause behind each. -/
theorem pausesIn_flatMap (pause : Nat → Duration) (numbers : List Nat) :
    pausesIn (numbers.flatMap fun i ↦ [.sent request, .slept (pause i)]) = numbers.map pause := by
  induction numbers with
  | nil => rfl
  | cons number rest ih => exact congrArg (pause number :: ·) ih

/-- A call makes as many pauses as it repeats its request. -/
theorem NetworkCall.pausesIn_ended :
    pausesIn (call.ended client transport request loaded count).trace =
      pausesIn loaded.trace ++ (List.range count).map fun i ↦
        loaded.client.drawnPause i ((pausesIn loaded.trace).length + i) := by
  have hsent : pausesIn [.sent request] = [] := rfl
  rw [← pausesIn_wireIn, wireIn_ended, pausesIn_append, pausesIn_append, pausesIn_wireIn,
    pausesIn_flatMap, hsent, List.append_nil]

end Sending

/-- A network call sends nothing, or one request to its target, any number of times. -/
theorem NetworkCall.requestsIn_perform (call : NetworkCall) (session : Session) :
    requestsIn (call.perform session).2.trace = requestsIn session.trace ∨
      ∃ url headers count, call.target session.client = .ok url ∧
        requestsIn (call.perform session).2.trace =
          requestsIn session.trace ++ List.replicate count ⟨call.method, url, headers⟩ := by
  have hcourse := call.course session
  generalize (call.perform session).1 = result at hcourse
  generalize (call.perform session).2 = after at hcourse
  cases hcourse with
  | astray error htarget => exact .inl rfl
  | disconnected url htarget htransport => exact .inl rfl
  | unloaded url transport error loaded htarget htransport hheaders =>
    exact .inl (loading_of_eq hheaders).requestsIn
  | exchanged url transport headers loaded count htarget htransport hheaders hstops =>
    refine .inr ⟨url, headers, count + 1, htarget, ?_⟩
    rw [requestsIn_ended, (loading_of_eq hheaders).requestsIn]

/-! ### What a call consumes -/

/-- What the transport answered to the last request of a trace. -/
def lastOutcome? (transport : Transport) (trace : List Activity) : Option Outcome :=
  (requestsIn trace).getLast?.map (transport (requestsIn trace).dropLast)

/-- The last outcome that a call consumed: the call sent a request, and this is what the transport
answered to the last one. -/
structure NetworkCall.LastConsumed (call : NetworkCall) (session : Session) (outcome : Outcome) :
    Prop where
  sent : (requestsIn session.trace).length < (requestsIn (call.perform session).2.trace).length
  answered : ∃ transport, session.client.transport = some transport ∧
    lastOutcome? transport (call.perform session).2.trace = some outcome

/-- The last outcome of a call is what the transport answered after all repetitions. -/
theorem NetworkCall.lastOutcome?_ended (call : NetworkCall) (client : Client)
    (transport : Transport) (request : Request) (loaded : Session) (count : Nat) :
    lastOutcome? transport (call.ended client transport request loaded count).trace =
      some (nextOutcome transport request loaded count) := by
  have hrequests : requestsIn (call.ended client transport request loaded count).trace =
      requestsIn loaded.trace ++ List.replicate count request ++ [request] := by
    rw [requestsIn_ended, List.replicate_succ', List.append_assoc]
  rw [lastOutcome?, hrequests, List.getLast?_concat, List.dropLast_concat]
  rfl

/-- A call fails before it sends anything, with a mistake in the configuration, or it answers to the
last outcome that it consumed, at the address that it asks for. -/
theorem NetworkCall.answers_last_at_target (call : NetworkCall) (session : Session) :
    (requestsIn (call.perform session).2.trace = requestsIn session.trace ∧
      ∃ error, (call.perform session).1 = .error (.configuration error)) ∨
    ∃ url outcome, call.target session.client = .ok url ∧ call.LastConsumed session outcome ∧
      (call.perform session).1 = call.answerTo session.client url outcome := by
  have hcourse := call.course session
  generalize hresult : (call.perform session).1 = result at hcourse
  generalize hafter : (call.perform session).2 = after at hcourse
  cases hcourse with
  | astray error htarget => exact .inl ⟨rfl, error, rfl⟩
  | disconnected url htarget htransport => exact .inl ⟨rfl, _, rfl⟩
  | unloaded url transport error loaded htarget htransport hheaders =>
    exact .inl ⟨(loading_of_eq hheaders).requestsIn, error, rfl⟩
  | exchanged url transport headers loaded count htarget htransport hheaders hstops =>
    refine .inr ⟨url, nextOutcome transport ⟨call.method, url, headers⟩ loaded count, htarget,
      ⟨?_, ?_⟩, rfl⟩
    · rw [hafter, requestsIn_ended, (loading_of_eq hheaders).requestsIn, List.length_append,
        List.length_replicate]
      omega
    · refine ⟨transport, htransport, ?_⟩
      rw [hafter, lastOutcome?_ended]

/-- A call fails before it sends anything, with a mistake in the configuration, or it answers to the
last outcome that it consumed. -/
theorem NetworkCall.answers_last (call : NetworkCall) (session : Session) :
    (requestsIn (call.perform session).2.trace = requestsIn session.trace ∧
      ∃ error, (call.perform session).1 = .error (.configuration error)) ∨
    ∃ url outcome, call.LastConsumed session outcome ∧
      (call.perform session).1 = call.answerTo session.client url outcome := by
  rcases call.answers_last_at_target session with hidle | ⟨url, outcome, -, hlast, hanswer⟩
  · exact .inl hidle
  · exact .inr ⟨url, outcome, hlast, hanswer⟩

/-- A call that consumed an outcome last answers to it, at the address that it asks for. -/
theorem NetworkCall.answer_at_target_of_lastConsumed (call : NetworkCall) {session : Session}
    {outcome : Outcome} (hlast : call.LastConsumed session outcome) :
    ∃ url, call.target session.client = .ok url ∧
      (call.perform session).1 = call.answerTo session.client url outcome := by
  rcases call.answers_last_at_target session with
    ⟨hrequests, -⟩ | ⟨url, other, htarget, hother, hanswer⟩
  · have hsent := hlast.sent
    rw [hrequests] at hsent
    exact absurd hsent (Nat.lt_irrefl _)
  · obtain ⟨transport, htransport, houtcome⟩ := hlast.answered
    obtain ⟨transport', htransport', houtcome'⟩ := hother.answered
    obtain rfl : transport = transport' := Option.some.inj (htransport.symm.trans htransport')
    obtain rfl : outcome = other := Option.some.inj (houtcome.symm.trans houtcome')
    exact ⟨url, htarget, hanswer⟩

/-- A call that consumed an outcome last answers to it. -/
theorem NetworkCall.answer_of_lastConsumed (call : NetworkCall) {session : Session}
    {outcome : Outcome} (hlast : call.LastConsumed session outcome) :
    ∃ url, (call.perform session).1 = call.answerTo session.client url outcome := by
  obtain ⟨url, -, hanswer⟩ := call.answer_at_target_of_lastConsumed hlast
  exact ⟨url, hanswer⟩

/-- A call that fails with a service error consumed an outcome. -/
theorem NetworkCall.exists_lastConsumed (call : NetworkCall) {session : Session}
    {error : ServiceError} (hfailed : (call.perform session).1 = .error (.service error)) :
    ∃ outcome, call.LastConsumed session outcome := by
  rcases call.answers_last session with ⟨-, other, hconfiguration⟩ | ⟨url, outcome, hlast, -⟩
  · cases hconfiguration.symm.trans hfailed
  · exact ⟨outcome, hlast⟩

/-! ### A plain client -/

/-- A client of a remote behind the given transport, with a token, nothing of its own configured and
three repetitions. -/
def plainClient (transport : Transport) : Client where
  service := "products"
  baseUri := "https://products.example"
  settings := { ClientSettings.standard with retry := RetrySettings.fast 3 }
  transport := some transport
  tokenProvider := TokenProvider.inTurn (.ok ⟨"tok-1"⟩) []
  resolvers := ⟨[]⟩
  jitter := JitterSource.none
  context := RequestContext.empty
  patterns := []
  token := none
  headers := none

/-- A plain client that has done nothing yet. -/
def plainSession (transport : Transport) : Session :=
  Session.start (plainClient transport)

/-- The headers that a plain client builds. -/
def plainHeaders : HeaderMap :=
  OutboundHeaders.fixedHeaders ⟨Text.octets "Bearer tok-1", by decide⟩

end ResourceLookup
