import ResourceLookup.Proofs.StatusFidelity

/-!
# The status that the remote sent

A failed call does not always report the status that the remote sent: a success with error objects,
or a number that is no status to hand on, is reported as 502. `ServiceError.Keeps` says that what
the remote sent can be told from the error nonetheless, since it stands beside the reported status
wherever it was replaced.

The error of a parsed response keeps every status (`Client.responseError_keeps`). The error of a
body that cannot be used has nothing beside its status (`Client.failureOf_upstreamStatus`), and
keeps a status only by reporting it. `NetworkCall.perform_keeps_status_iff` says of whole calls
which statuses are kept, and `NetworkCall.perform_loses_status` is a call that loses one.
-/

set_option autoImplicit false
set_option relaxedAutoImplicit false

namespace ResourceLookup

open Session

/-- An error keeps a status that the remote sent: it reports that status and no other beside it, or
it reports another one and that status beside it. -/
def ServiceError.Keeps (error : ServiceError) (sent : Nat) : Prop :=
  (error.status.code = sent ∧ error.upstreamStatus = none) ∨
    (error.status.code ≠ sent ∧ error.upstreamStatus = some sent)

/-- An error with nothing beside its status keeps the status that it reports. -/
theorem ServiceError.keeps_iff {error : ServiceError} {sent : Nat}
    (hupstream : error.upstreamStatus = none) : error.Keeps sent ↔ error.status.code = sent := by
  constructor
  · rintro (⟨hcode, -⟩ | ⟨-, hkept⟩)
    · exact hcode
    · cases hupstream.symm.trans hkept
  · exact fun hcode ↦ .inl ⟨hcode, hupstream⟩

/-- A status is reported as it is exactly where it is one of an interim answer, a redirection or an
error. -/
theorem reportedCode_eq_self_iff (status : Nat) :
    reportedCode status = status ↔
      (100 ≤ status ∧ status ≤ 199) ∨ (300 ≤ status ∧ status ≤ 599) := by
  rw [reportedCode]
  split <;> omega

/-- A status that is not reported as it is becomes a bad gateway. -/
theorem reportedCode_of_ne {status : Nat} (hne : reportedCode status ≠ status) :
    reportedCode status = 502 := by
  unfold reportedCode at hne ⊢
  split at hne
  · exact absurd rfl hne
  · rw [if_neg ‹_›]

namespace Client

variable (client : Client) (url : String)

/-- The error of a failed response keeps the status of the response. -/
theorem responseError_keeps {response : Response} {sent : Nat}
    (hsent : response.rawStatus = some sent) : (client.responseError url response).Keeps sent := by
  have hstatus := client.responseError_status url response
  rw [hsent] at hstatus
  rw [ServiceError.Keeps, hstatus]
  unfold responseError
  simp only [hsent]
  by_cases hsame : sent = (normalizeStatus (some sent) response.hasErrors).code
  · rw [if_pos hsame]
    exact .inl ⟨hsame.symm, rfl⟩
  · rw [if_neg hsame]
    exact .inr ⟨Ne.symm hsame, rfl⟩

/-- The error of a response that cannot be used has nothing beside its status. -/
theorem unusableResponse_upstreamStatus (status : Option Nat) (detail : String)
    (source : CauseChain) :
    (client.unusableResponse url status detail source).upstreamStatus = none := by
  cases status <;> rfl

/-- The error of a transport error has nothing beside its status. -/
theorem failureOf_upstreamStatus (failure : TransportError) :
    (client.failureOf url failure).upstreamStatus = none := by
  cases failure with
  | malformed status cause => exact client.unusableResponse_upstreamStatus url _ _ _
  | bodyTooLarge status limit => exact client.unusableResponse_upstreamStatus url _ _ _
  | invalidUri bad reason => exact client.unusableResponse_upstreamStatus url _ _ _
  | timeout limit => rfl
  | connect cause => rfl
  | io cause => rfl

section Answering

variable {hit? : Response → Option Fetched} {error : ServiceError} {sent : Nat}

/-- A service error that answers to a parsed response keeps the status of the response. -/
theorem answerTo_ok_keeps {response : Response}
    (hanswer : client.answerTo url hit? (.ok response) = .error (.service error))
    (hsent : response.rawStatus = some sent) : error.Keeps sent := by
  rw [answerTo] at hanswer
  by_cases hsuccess : response.isSuccess = true
  · rw [if_pos hsuccess] at hanswer
    cases hanswer
  · rw [if_neg hsuccess] at hanswer
    cases hhit : hit? response with
    | some hit =>
      rw [hhit] at hanswer
      cases hanswer
    | none =>
      rw [hhit] at hanswer
      obtain rfl : client.responseError url response = error :=
        RemoteError.service.inj (Except.error.inj hanswer)
      exact client.responseError_keeps url hsent

/-- A service error that answers to a transport error has nothing beside its status. -/
theorem answerTo_error_upstreamStatus {failure : TransportError}
    (hanswer : client.answerTo url hit? (.error failure) = .error (.service error)) :
    error.upstreamStatus = none := by
  obtain rfl : client.failureOf url failure = error :=
    RemoteError.service.inj (Except.error.inj hanswer)
  exact client.failureOf_upstreamStatus url failure

/-- A service error keeps the status of the outcome that it answers to exactly if that is a parsed
response or the status is reported as it is. Otherwise the status is lost: what is reported is 502
with nothing beside it. -/
theorem answerTo_keeps_iff {outcome : Outcome}
    (hanswer : client.answerTo url hit? outcome = .error (.service error))
    (hsent : outcome.remoteStatus? = some sent) :
    (error.Keeps sent ↔ (∃ response, outcome = .ok response) ∨ reportedCode sent = sent) ∧
      (¬ error.Keeps sent → error.status.code = 502 ∧ error.upstreamStatus = none) := by
  have hcode := ((client.answerTo_tellsOf url hanswer).answered sent hsent).2
  cases outcome with
  | ok response =>
    have hkeeps : error.Keeps sent := client.answerTo_ok_keeps url hanswer hsent
    exact ⟨iff_of_true hkeeps (.inl ⟨response, rfl⟩), fun hlost ↦ absurd hkeeps hlost⟩
  | error failure =>
    have hupstream := client.answerTo_error_upstreamStatus url hanswer
    have hkeeps : error.Keeps sent ↔ reportedCode sent = sent := by
      rw [ServiceError.keeps_iff hupstream, hcode]
    refine ⟨?_, fun hlost ↦ ⟨?_, hupstream⟩⟩
    · rw [hkeeps]
      exact ⟨.inr, fun hreported ↦ hreported.resolve_left fun ⟨_, hparsed⟩ ↦ by cases hparsed⟩
    · rw [hcode]
      exact reportedCode_of_ne fun hreported ↦ hlost (hkeeps.mpr hreported)

end Answering

end Client

namespace NetworkCall

/-- A call that fails with a service error consumed an outcome, and the error keeps a status that
the remote sent with the last one exactly if the body was parsed or the status is reported as it is.
A status that is not kept is lost altogether. -/
theorem perform_keeps_status_iff (call : NetworkCall) (session : Session) (error : ServiceError)
    (hfailed : (call.perform session).1 = .error (.service error)) :
    (∃ outcome, call.LastConsumed session outcome) ∧
      ∀ outcome, call.LastConsumed session outcome →
        ∀ sent, outcome.remoteStatus? = some sent →
          (error.Keeps sent ↔
            (∃ response, outcome = .ok response) ∨
              (100 ≤ sent ∧ sent ≤ 199) ∨ (300 ≤ sent ∧ sent ≤ 599)) ∧
          (¬ error.Keeps sent → error.status.code = 502 ∧ error.upstreamStatus = none) := by
  refine ⟨call.exists_lastConsumed hfailed, fun outcome hlast sent hsent ↦ ?_⟩
  obtain ⟨url, hanswer⟩ := call.answer_of_lastConsumed hlast
  rw [← reportedCode_eq_self_iff sent]
  exact session.client.answerTo_keeps_iff url (hanswer.symm.trans hfailed) hsent

/-- A success with an error object. -/
def contradictoryResponse : Response :=
  ⟨StatusCode.ofNat? 200, { Document.empty with errors := [ErrorObject.ofDetail "stock is empty"] }⟩

theorem perform_keeps_status_iff_contradictory :
    ∃ error, ((NetworkCall.post "/v1/orders" (.object [])).perform
        (plainSession fun _ _ ↦ .ok contradictoryResponse)).1 = .error (.service error) ∧
      error.Keeps 200 := by
  have hlast : (NetworkCall.post "/v1/orders" (.object [])).LastConsumed
      (plainSession fun _ _ ↦ .ok contradictoryResponse) (.ok contradictoryResponse) :=
    ⟨by decide, _, rfl, rfl⟩
  obtain ⟨-, hkeeps⟩ := perform_keeps_status_iff (.post "/v1/orders" (.object []))
    (plainSession fun _ _ ↦ .ok contradictoryResponse) _ rfl
  exact ⟨_, rfl, (hkeeps _ hlast 200 rfl).1.mpr (.inl ⟨_, rfl⟩)⟩

/-- A remote whose successes are no documents. -/
def misleadingRemote : Transport :=
  fun _ _ ↦ .error (.malformed (some 200) .missingTopLevelMember)

/-- A call whose error does not keep the status that the remote sent with the last outcome. -/
theorem perform_loses_status :
    ∃ error outcome,
      ((NetworkCall.get "/v1/products").perform (plainSession misleadingRemote)).1 =
        .error (.service error) ∧
      (NetworkCall.get "/v1/products").LastConsumed (plainSession misleadingRemote) outcome ∧
      outcome.remoteStatus? = some 200 ∧ ¬ error.Keeps 200 := by
  refine ⟨_, .error (.malformed (some 200) .missingTopLevelMember), rfl,
    ⟨by decide, misleadingRemote, rfl, rfl⟩, rfl, ?_⟩
  rintro (⟨hcode, -⟩ | ⟨-, hupstream⟩)
  · exact absurd hcode (by decide)
  · cases hupstream

end NetworkCall

end ResourceLookup
