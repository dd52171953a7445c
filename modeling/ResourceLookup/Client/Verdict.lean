import ResourceLookup.Client.Basic

/-!
# Judging outcomes

What a client makes of the outcome of a request (`Client.judge`): a success is done; a failed
response may be intercepted by the call; a server error, a missing response and every failure to
reach the remote can be retried; all else is final. Statuses are kept wherever the remote sent one:
`Client.responseError` for parsed responses, `Client.unusableResponse` for bodies that cannot be
used, `Client.transportFailure` where nothing arrived.

A recoverable error (`recoverable?`) is a failed response one of whose details contains one of the
client's patterns; the first such pattern in their order counts, and empty patterns never match.
-/

set_option autoImplicit false
set_option relaxedAutoImplicit false

namespace ResourceLookup

/-- A failed response that the caller handles as ordinary control flow. -/
structure RecoverableError where
  status : StatusCode
  details : List String
  matchedPattern : String
  deriving DecidableEq

/-- What a GET request brings. -/
inductive Fetched where
  | document (response : Response)
  | recoverable (error : RecoverableError)
  deriving DecidableEq

/-- The first pattern that is not empty and occurs in some detail. -/
def firstMatch? (patterns details : List String) : Option String :=
  patterns.find? fun pattern ↦
    pattern ≠ "" && details.any fun detail ↦ Text.contains detail pattern

/-- The recoverable error of a failed response, if it is one. -/
def recoverable? (patterns : List String) (response : Response) : Option RecoverableError :=
  let details := response.document.errorDetails
  match firstMatch? patterns details with
  | none => none
  | some pattern =>
    let reported := normalizeStatus response.rawStatus true
    some ⟨if reported.isClientError then reported else .badRequest, details, pattern⟩

/-- What is made of an outcome, `α` being what a call intercepts. -/
inductive Verdict (α : Type) where
  | done (response : Response)
  | intercepted (hit : α)
  | final (error : ServiceError)
  | retryable (error : ServiceError)

/-- The detail of a failure without any response. -/
def noResponseDetail : String := "No response available"

namespace Client

/-- The failure of a response that is no success. A remote status that was replaced is kept beside
the reported one. -/
def responseError (client : Client) (endpoint : String) (response : Response) : ServiceError :=
  let status := normalizeStatus response.rawStatus response.hasErrors
  let details := response.document.errorDetails
  match response.rawStatus with
  | none => ServiceError.madeUp client.service endpoint status (noResponseDetail :: details)
  | some raw =>
    let error := ServiceError.answered client.service endpoint status details
    if raw = status.code then error else { error with upstreamStatus := some raw }

/-- The failure of a response that arrived but cannot be used. -/
def unusableResponse (client : Client) (endpoint : String) (status : Option Nat) (detail : String)
    (source : CauseChain) : ServiceError :=
  let reported := normalizeStatus status true
  let error :=
    if status.isSome then ServiceError.answered client.service endpoint reported [detail]
    else ServiceError.madeUp client.service endpoint reported [detail]
  { error with source := some source }

/-- The failure to reach the remote. -/
def transportFailure (client : Client) (endpoint : String) (error : TransportError) :
    ServiceError :=
  { ServiceError.madeUp client.service endpoint .serviceUnavailable [error.message] with
    source := some error.chain }

/-- The detail of a body that is no document. -/
def malformedDetail (client : Client) : String :=
  "Malformed response from " ++ client.service

/-- The verdict on an outcome of a request to an address. -/
def judge {α : Type} (client : Client) (url : String) (intercept : Response → Option α) :
    Outcome → Verdict α
  | .ok response =>
    if response.isSuccess then .done response
    else
      match intercept response with
      | some hit => .intercepted hit
      | none =>
        let error := client.responseError url response
        if error.status.isServerError then .retryable error else .final error
  | .error (.malformed status cause) =>
    .final (client.unusableResponse url status client.malformedDetail
      (CauseChain.ofList "" cause.chain))
  | .error (.bodyTooLarge status limit) =>
    let error := TransportError.bodyTooLarge status limit
    .final (client.unusableResponse url status error.message error.chain)
  | .error (.invalidUri bad reason) =>
    let error := TransportError.invalidUri bad reason
    .final (client.unusableResponse url none error.message error.chain)
  | .error (.timeout limit) => .retryable (client.transportFailure url (.timeout limit))
  | .error (.connect cause) => .retryable (client.transportFailure url (.connect cause))
  | .error (.io cause) => .retryable (client.transportFailure url (.io cause))

end Client

/-- The event that a failed call reports. -/
def ServiceError.event (error : ServiceError) : Event :=
  if error.status.isClientError then .callRejected else .callFailed

end ResourceLookup
