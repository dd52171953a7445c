import ResourceLookup.Proofs.NetworkCall

/-!
# Which responses are accepted

A call that keeps failed responses from its caller (`NetworkCall.isStrict`) returns a document only
if the last response was accepted, and every other response ends the call with a service error, or
with a recoverable error of a GET request. `NetworkCall.perform_accepts` says this of whole calls
and of responses that the caller hands over.

Accepted are the responses without error objects whose status is below 400, and in addition those
whose status is 600 or more: such a status belongs to no range of errors, although the errors that
are reported treat it as one. `NetworkCall.perform_accepts_unnamed` is a response of that kind.
-/

set_option autoImplicit false
set_option relaxedAutoImplicit false

namespace ResourceLookup

open Session

/-- A response without error objects whose status belongs to no range of errors. -/
def Response.IsFreeOfErrors (response : Response) : Prop :=
  (∃ status, response.rawStatus = some status ∧ (status < 400 ∨ 600 ≤ status)) ∧
    response.document.errors = []

namespace NetworkCall

/-- Whether a call keeps failed responses from its caller. -/
def isStrict : NetworkCall → Bool
  | .get _ | .post _ _ => true
  | .getUserUrl _ => false

/-- Whether a call takes recoverable errors out of failed responses. -/
def isGet : NetworkCall → Bool
  | .get _ => true
  | .getUserUrl _ | .post _ _ => false

variable {call : NetworkCall}

/-- A call answers to a successful response with its document. -/
theorem answerTo_of_isSuccess (client : Client) (url : String) {response : Response}
    (hsuccess : response.isSuccess = true) :
    call.answerTo client url (.ok response) = .ok (.document response) := by
  rw [answerTo, Client.answerTo, if_pos hsuccess]

/-- A strict call answers to a failed response with an error. -/
theorem answerTo_of_not_isSuccess (hstrict : call.isStrict = true) (client : Client) (url : String)
    {response : Response} (hfailed : ¬ response.isSuccess = true) :
    (∃ error, call.answerTo client url (.ok response) = .error (.service error)) ∨
      call.isGet = true ∧
        ∃ hit, call.answerTo client url (.ok response) = .ok (.recoverable hit) := by
  rw [answerTo, Client.answerTo, if_neg hfailed]
  cases call with
  | get path =>
    rw [hit?]
    cases recoverable? client.patterns response with
    | none => exact .inl ⟨_, rfl⟩
    | some hit => exact .inr ⟨rfl, hit, rfl⟩
  | getUserUrl path => cases hstrict
  | post path body => exact .inl ⟨_, rfl⟩

/-- A strict call that answers with a document answers to a response that is a success. -/
theorem eq_of_answerTo_eq_document (hstrict : call.isStrict = true) (client : Client) (url : String)
    {outcome : Outcome} {response : Response}
    (hanswer : call.answerTo client url outcome = .ok (.document response)) :
    outcome = .ok response ∧ response.isSuccess = true := by
  cases outcome with
  | error failure => cases hanswer
  | ok other =>
    by_cases hsuccess : other.isSuccess = true
    · rw [answerTo_of_isSuccess client url hsuccess] at hanswer
      obtain rfl : other = response := Fetched.document.inj (Except.ok.inj hanswer)
      exact ⟨rfl, hsuccess⟩
    · rcases answerTo_of_not_isSuccess hstrict client url hsuccess with
        ⟨error, herror⟩ | ⟨-, hit, hhit⟩
      · cases hanswer.symm.trans herror
      · cases hanswer.symm.trans hhit

/-- What a client accepts. A strict call returns a document only if it is the last response that the
call consumed and free of errors; every other response that it consumed last ends it with a service
error, or a GET request with a recoverable error. A response that the caller hands over is accepted
under the same condition, and refused with a service error otherwise. -/
theorem perform_accepts (call : NetworkCall) (session : Session) (hstrict : call.isStrict = true) :
    (∀ response, (call.perform session).1 = .ok (.document response) →
        call.LastConsumed session (.ok response) ∧ response.IsFreeOfErrors) ∧
      (∀ response, call.LastConsumed session (.ok response) →
        (response.IsFreeOfErrors → (call.perform session).1 = .ok (.document response)) ∧
        (¬ response.IsFreeOfErrors →
          (∃ error, (call.perform session).1 = .error (.service error)) ∨
            call.isGet = true ∧ ∃ hit, (call.perform session).1 = .ok (.recoverable hit))) ∧
      (∀ response,
        (response.IsFreeOfErrors →
          (session.handleResponse response).1 = .ok response.document.data) ∧
        (¬ response.IsFreeOfErrors →
          ∃ error, (session.handleResponse response).1 = .error error)) := by
  refine ⟨?_, ?_, ?_⟩
  · intro response hdocument
    rcases call.answers_last session with
      ⟨-, error, hconfiguration⟩ | ⟨url, outcome, hlast, hanswer⟩
    · cases hconfiguration.symm.trans hdocument
    · obtain ⟨rfl, hsuccess⟩ := eq_of_answerTo_eq_document hstrict session.client url
        (hanswer.symm.trans hdocument)
      exact ⟨hlast, Response.isSuccess_iff.mp hsuccess⟩
  · intro response hlast
    obtain ⟨url, hanswer⟩ := call.answer_of_lastConsumed hlast
    rw [hanswer]
    constructor
    · intro hfree
      exact answerTo_of_isSuccess session.client url (Response.isSuccess_iff.mpr hfree)
    · intro herrors
      exact answerTo_of_not_isSuccess hstrict session.client url
        fun hsuccess ↦ herrors (Response.isSuccess_iff.mp hsuccess)
  · intro response
    rw [handleResponse]
    constructor
    · intro hfree
      rw [if_pos (Response.isSuccess_iff.mpr hfree)]
    · intro herrors
      rw [if_neg fun hsuccess ↦ herrors (Response.isSuccess_iff.mp hsuccess)]
      exact ⟨_, rfl⟩

/-- A remote that is overloaded once, and then answers with an empty document. -/
def recoveringRemote : Transport :=
  Transport.inTurn [.ok ⟨some .serviceUnavailable, Document.empty⟩]
    (.ok ⟨StatusCode.ofNat? 200, Document.empty⟩)

theorem perform_accepts_recovered :
    ∃ response, ((NetworkCall.post "/v1/orders" (.object [])).perform
        (plainSession recoveringRemote)).1 = .ok (.document response) ∧
      response.rawStatus = some 200 ∧ response.IsFreeOfErrors := by
  obtain ⟨hsound, -, -⟩ := perform_accepts (.post "/v1/orders" (.object []))
    (plainSession recoveringRemote) rfl
  exact ⟨_, rfl, rfl, (hsound _ rfl).2⟩

/-- A response with an empty collection and a status beyond the errors. -/
def unnamedResponse : Response :=
  ⟨StatusCode.ofNat? 600, { Document.empty with data := some (.many []) }⟩

/-- A response that is accepted, from a GET request and from the caller, although its status is not
below 400. -/
theorem perform_accepts_unnamed :
    ((NetworkCall.get "/v1/products").perform (plainSession fun _ _ ↦ .ok unnamedResponse)).1 =
        .ok (.document unnamedResponse) ∧
      ((plainSession fun _ _ ↦ .ok unnamedResponse).handleResponse unnamedResponse).1 =
        .ok (some (.many [])) ∧
      ¬ ∃ status, unnamedResponse.rawStatus = some status ∧ status < 400 := by
  refine ⟨rfl, rfl, ?_⟩
  rintro ⟨status, hstatus, hlow⟩
  obtain rfl : 600 = status := Option.some.inj hstatus
  exact absurd hlow (by decide)

end NetworkCall

end ResourceLookup
