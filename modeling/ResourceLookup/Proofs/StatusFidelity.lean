import ResourceLookup.Proofs.NetworkCall

/-!
# What status a failed call reports

The remote status reaches the error of a call along three ways: with a parsed response, with a body
that cannot be used, or not at all. `TellsOf` is the one law for all of them, between an outcome and
the error that tells of it. `Client.answerTo_tellsOf` proves it for a single outcome, and
`NetworkCall.perform_tells_of_last` for whole calls: the error tells of the last outcome that the
call consumed, whatever the outcomes before it were.
-/

set_option autoImplicit false
set_option relaxedAutoImplicit false

namespace ResourceLookup

open Session

/-- The status of the response that arrived, if one arrived that had one. -/
def Outcome.remoteStatus? : Outcome → Option Nat
  | .ok response => response.rawStatus
  | .error error => error.responseStatus

/-- Whether the remote was not reached, or not in time. -/
def Outcome.isUnreached : Outcome → Bool
  | .ok _ => false
  | .error error => error.isUnreached

/-- Where the remote was not reached, no response arrived. -/
theorem TransportError.responseStatus_of_isUnreached (failure : TransportError)
    (hunreached : failure.isUnreached = true) : failure.responseStatus = none := by
  cases failure with
  | timeout limit => rfl
  | connect cause => rfl
  | io cause => rfl
  | malformed status cause => cases hunreached
  | bodyTooLarge status limit => cases hunreached
  | invalidUri bad reason => rfl

/-- An error tells of an outcome: it carries the remote status as far as that can be reported, is
synthetic only for want of one, and lists what the error objects of a parsed response say. -/
structure TellsOf (error : ServiceError) (outcome : Outcome) : Prop where
  answered : ∀ status, outcome.remoteStatus? = some status →
    error.synthetic = false ∧ error.status.code = reportedCode status
  madeUp : outcome.remoteStatus? = none →
    error.synthetic = true ∧ error.status.code = if outcome.isUnreached then 503 else 502
  details : ∀ response, outcome = .ok response →
    error.details = (if response.rawStatus = none then [noResponseDetail] else []) ++
      response.document.errors.map ErrorObject.message

namespace Client

variable (client : Client) (url : String)

/-- The error of a failed response tells of it. -/
theorem responseError_tellsOf {response : Response} (hfailed : ¬ response.isSuccess = true) :
    TellsOf (client.responseError url response) (.ok response) where
  answered := by
    intro status hstatus
    have hraw : response.rawStatus = some status := hstatus
    constructor
    · rw [responseError_synthetic, hraw]
      rfl
    · exact client.responseError_code url hfailed hraw
  madeUp := by
    intro hstatus
    have hraw : response.rawStatus = none := hstatus
    constructor
    · rw [responseError_synthetic, hraw]
      rfl
    · rw [responseError_status, hraw]
      rfl
  details := by
    intro other hother
    obtain rfl : response = other := Except.ok.inj hother
    exact client.responseError_details url response

/-- The error of a response that cannot be used tells of the failure on it. Assumes: the status of
the failure, which is not one to reach the remote. -/
theorem unusableResponse_tellsOf {failure : TransportError} {detail : String}
    {source : CauseChain} {status : Option Nat} (hstatus : failure.responseStatus = status)
    (hreached : failure.isUnreached = false) :
    TellsOf (client.unusableResponse url status detail source) (.error failure) where
  answered := by
    intro sent hsent
    obtain rfl : status = some sent := hstatus.symm.trans hsent
    constructor
    · rw [unusableResponse_synthetic]
      rfl
    · exact client.unusableResponse_code url detail source
  madeUp := by
    intro hsent
    obtain rfl : status = none := hstatus.symm.trans hsent
    constructor
    · rw [unusableResponse_synthetic]
      rfl
    · rw [Outcome.isUnreached, hreached]
      rfl
  details := by
    intro response hresponse
    cases hresponse

/-- The error of a failure to reach the remote tells of it. Assumes: it is one. -/
theorem transportFailure_tellsOf {failure : TransportError}
    (hunreached : failure.isUnreached = true) :
    TellsOf (client.transportFailure url failure) (.error failure) where
  answered := by
    intro status hstatus
    cases (failure.responseStatus_of_isUnreached hunreached).symm.trans hstatus
  madeUp := by
    intro _
    constructor
    · rfl
    · rw [Outcome.isUnreached, hunreached]
      rfl
  details := by
    intro response hresponse
    cases hresponse

/-- The error of a transport error tells of it. -/
theorem failureOf_tellsOf (failure : TransportError) :
    TellsOf (client.failureOf url failure) (.error failure) := by
  cases failure with
  | malformed status cause => exact client.unusableResponse_tellsOf url rfl rfl
  | bodyTooLarge status limit => exact client.unusableResponse_tellsOf url rfl rfl
  | invalidUri bad reason => exact client.unusableResponse_tellsOf url rfl rfl
  | timeout limit => exact client.transportFailure_tellsOf url rfl
  | connect cause => exact client.transportFailure_tellsOf url rfl
  | io cause => exact client.transportFailure_tellsOf url rfl

/-- A service error that answers to an outcome tells of it, whatever is intercepted. -/
theorem answerTo_tellsOf {hit? : Response → Option Fetched} {outcome : Outcome}
    {error : ServiceError} (hanswer : client.answerTo url hit? outcome = .error (.service error)) :
    TellsOf error outcome := by
  cases outcome with
  | error failure =>
    obtain rfl : client.failureOf url failure = error :=
      RemoteError.service.inj (Except.error.inj hanswer)
    exact client.failureOf_tellsOf url failure
  | ok response =>
    rw [answerTo] at hanswer
    by_cases hsuccess : response.isSuccess = true
    · rw [if_pos hsuccess] at hanswer
      cases hanswer
    · rw [if_neg hsuccess] at hanswer
      cases hhit : hit? response with
      | some hit =>
        rw [hhit] at hanswer
        cases hanswer
      | none =>
        rw [hhit] at hanswer
        obtain rfl : client.responseError url response = error :=
          RemoteError.service.inj (Except.error.inj hanswer)
        exact client.responseError_tellsOf url hsuccess

end Client

namespace NetworkCall

/-- A call that fails with a service error consumed an outcome, and the error tells of the last one
that it consumed. In particular a status of the four hundreds is reported as the remote sent it. -/
theorem perform_tells_of_last (call : NetworkCall) (session : Session) (error : ServiceError)
    (hfailed : (call.perform session).1 = .error (.service error)) :
    (∃ outcome, call.LastConsumed session outcome) ∧
      ∀ outcome, call.LastConsumed session outcome →
        TellsOf error outcome ∧
        ∀ status, outcome.remoteStatus? = some status → 400 ≤ status → status < 500 →
          error.status.code = status := by
  constructor
  · rcases call.answers_last session with ⟨-, other, hconfiguration⟩ | ⟨url, outcome, hlast, -⟩
    · cases hconfiguration.symm.trans hfailed
    · exact ⟨outcome, hlast⟩
  · intro outcome hlast
    obtain ⟨url, hanswer⟩ := call.answer_of_lastConsumed hlast
    have htells : TellsOf error outcome :=
      session.client.answerTo_tellsOf url (hanswer.symm.trans hfailed)
    refine ⟨htells, fun status hstatus hlow hhigh ↦ ?_⟩
    rw [(htells.answered status hstatus).2, reportedCode, if_pos]
    omega

/-- A remote that does not answer in time, and then with a status and a body that is no document. -/
def unusableRemote : Transport :=
  Transport.inTurn [.error (.timeout (Duration.ofSeconds 30))]
    (.error (.malformed (some 410) .missingTopLevelMember))

theorem perform_tells_of_last_unusable :
    ∃ error, ((NetworkCall.get "/v1/products/7").perform (plainSession unusableRemote)).1 =
        .error (.service error) ∧
      error.synthetic = false ∧ error.status.code = 410 := by
  have hlast : (NetworkCall.get "/v1/products/7").LastConsumed (plainSession unusableRemote)
      (.error (.malformed (some 410) .missingTopLevelMember)) :=
    ⟨by decide, unusableRemote, rfl, rfl⟩
  obtain ⟨-, htells⟩ := perform_tells_of_last (.get "/v1/products/7")
    (plainSession unusableRemote) _ rfl
  exact ⟨_, rfl, (htells _ hlast).1.answered 410 rfl⟩

end NetworkCall

end ResourceLookup
