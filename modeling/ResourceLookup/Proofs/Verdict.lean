import ResourceLookup.Client.Verdict

/-!
# What the failures of a client say

A response is a success if its status is below 400 or at least 600 and it has no error objects
(`Response.isSuccess_iff`). The failure of any other response keeps the remote status where
`reportedCode` keeps it, lists the messages of the error objects, and is synthetic only if there was
no status (`Client.responseError_code`, `Client.responseError_details`,
`Client.responseError_synthetic`). The same holds of a response that arrived but cannot be used
(`Client.unusableResponse_code`, `Client.unusableResponse_synthetic`).
-/

set_option autoImplicit false
set_option relaxedAutoImplicit false

namespace ResourceLookup

/-- The number reported for the remote status of a failed call. A status of the two hundreds does
not tell of a failure, and one outside of 100 to 599 is no status to hand on. -/
def reportedCode (status : Nat) : Nat :=
  if (100 ≤ status ∧ status ≤ 199) ∨ (300 ≤ status ∧ status ≤ 599) then status else 502

/-- What is reported is what `reportedCode` says. Assumes: a success comes with error objects. -/
theorem normalizeStatus_code {status : Nat} {hasErrors : Bool}
    (herrors : 200 ≤ status → status < 300 → hasErrors = true) :
    (normalizeStatus (some status) hasErrors).code = reportedCode status := by
  simp only [normalizeStatus, reportedCode]
  by_cases hsuccess : 200 ≤ status ∧ status < 300
  · have hbad : ¬ ((100 ≤ status ∧ status ≤ 199) ∨ (300 ≤ status ∧ status ≤ 599)) := by omega
    rw [if_pos ⟨hsuccess.1, hsuccess.2, herrors hsuccess.1 hsuccess.2⟩, if_neg hbad]
    rfl
  · have hother : ¬ (200 ≤ status ∧ status < 300 ∧ hasErrors = true) := fun h ↦
      hsuccess ⟨h.1, h.2.1⟩
    rw [if_neg hother]
    by_cases hrange : 100 ≤ status ∧ status < 600
    · have hsent : (100 ≤ status ∧ status ≤ 199) ∨ (300 ≤ status ∧ status ≤ 599) := by omega
      rw [dif_pos hrange, if_pos hsent]
    · have hbad : ¬ ((100 ≤ status ∧ status ≤ 199) ∨ (300 ≤ status ∧ status ≤ 599)) := by omega
      rw [dif_neg hrange, if_neg hbad]
      rfl

namespace Response

variable {response : Response}

/-- A response has error objects if its list of them is not empty. -/
theorem hasErrors_eq_false_iff : response.hasErrors = false ↔ response.document.errors = [] := by
  rw [hasErrors, Document.hasErrors, Bool.not_eq_false', List.isEmpty_iff]

/-- A success has a status that is no error, and no error objects. -/
theorem isSuccess_iff :
    response.isSuccess = true ↔
      (∃ status, response.rawStatus = some status ∧ (status < 400 ∨ 600 ≤ status)) ∧
        response.document.errors = [] := by
  rw [← hasErrors_eq_false_iff, isSuccess, rawStatus, Bool.and_eq_true, Bool.not_eq_true']
  refine and_congr_left fun _ ↦ ?_
  cases response.status with
  | none => simp
  | some status =>
    have hcode := status.inRange
    simp only [StatusCode.isClientError, StatusCode.isServerError, Option.map_some,
      Option.some.injEq, Bool.and_eq_true, Bool.not_eq_true', Bool.and_eq_false_iff,
      decide_eq_false_iff_not, exists_eq_left']
    omega

/-- A failed response with a status of the two hundreds has error objects. -/
theorem hasErrors_of_not_isSuccess {status : Nat} (hfailed : ¬ response.isSuccess = true)
    (hstatus : response.rawStatus = some status) (hlow : status < 300) :
    response.hasErrors = true := by
  rw [← Bool.not_eq_false, hasErrors_eq_false_iff]
  intro herrors
  exact hfailed (isSuccess_iff.mpr ⟨⟨status, hstatus, .inl (by omega)⟩, herrors⟩)

end Response

namespace Client

variable (client : Client) (url : String) {response : Response} {status : Nat}

/-- The error of a failed response has the normalized status of the response. -/
theorem responseError_status (response : Response) :
    (client.responseError url response).status =
      normalizeStatus response.rawStatus response.hasErrors := by
  unfold responseError
  cases response.rawStatus with
  | none => rfl
  | some raw =>
    dsimp only
    split <;> rfl

/-- The error of a failed response is synthetic if the response has no status. -/
theorem responseError_synthetic (response : Response) :
    (client.responseError url response).synthetic = response.rawStatus.isNone := by
  unfold responseError
  cases response.rawStatus with
  | none => rfl
  | some raw =>
    dsimp only
    split <;> rfl

/-- The error of a failed response lists the messages of the error objects, behind a note if there
was no response. -/
theorem responseError_details (response : Response) :
    (client.responseError url response).details =
      (if response.rawStatus = none then [noResponseDetail] else []) ++
        response.document.errors.map ErrorObject.message := by
  unfold responseError
  cases response.rawStatus with
  | none => rfl
  | some raw =>
    dsimp only
    split <;> rfl

/-- The error of a failed response with a status reports that status, as far as it can be. -/
theorem responseError_code (hfailed : ¬ response.isSuccess = true)
    (hstatus : response.rawStatus = some status) :
    (client.responseError url response).status.code = reportedCode status := by
  rw [responseError_status, hstatus]
  exact normalizeStatus_code fun _ hlow ↦ Response.hasErrors_of_not_isSuccess hfailed hstatus hlow

/-- The error of a response that cannot be used reports its status, as far as it can be. -/
theorem unusableResponse_code (detail : String) (source : CauseChain) :
    (client.unusableResponse url (some status) detail source).status.code = reportedCode status :=
  normalizeStatus_code fun _ _ ↦ rfl

/-- The error of a response that cannot be used is synthetic if the response has no status. -/
theorem unusableResponse_synthetic (status : Option Nat) (detail : String) (source : CauseChain) :
    (client.unusableResponse url status detail source).synthetic = status.isNone := by
  cases status <;> rfl

end Client

end ResourceLookup
