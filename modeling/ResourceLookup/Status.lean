/-!
# Statuses of responses

A `StatusCode` is a number from 100 to 999. Those of the four hundreds are client errors, those of
the five hundreds server errors. `normalizeStatus` maps what the remote answered to what is
reported: a missing status, one outside of 100 to 599, and a success that comes with error objects
are all reported as 502.
-/

set_option autoImplicit false
set_option relaxedAutoImplicit false

namespace ResourceLookup

/-- The status of a response. -/
structure StatusCode where
  code : Nat
  inRange : 100 ≤ code ∧ code < 1000 := by decide
  deriving DecidableEq

namespace StatusCode

/-- The status with that number, if there is one. -/
def ofNat? (code : Nat) : Option StatusCode :=
  if h : 100 ≤ code ∧ code < 1000 then some ⟨code, h⟩ else none

/-- The remote was understood but sent something unusable. -/
def badGateway : StatusCode := ⟨502, by decide⟩

/-- The remote could not be reached. -/
def serviceUnavailable : StatusCode := ⟨503, by decide⟩

/-- The request was at fault. -/
def badRequest : StatusCode := ⟨400, by decide⟩

/-- Whether the status is one of the four hundreds. -/
def isClientError (status : StatusCode) : Bool :=
  400 ≤ status.code && status.code < 500

/-- Whether the status is one of the five hundreds. -/
def isServerError (status : StatusCode) : Bool :=
  500 ≤ status.code && status.code < 600

end StatusCode

/-- The status reported for the status of a response with or without error objects. -/
def normalizeStatus (raw : Option Nat) (hasErrors : Bool) : StatusCode :=
  match raw with
  | none => .badGateway
  | some code =>
    if 200 ≤ code ∧ code < 300 ∧ hasErrors then .badGateway
    else if h : 100 ≤ code ∧ code < 600 then ⟨code, h.1, by omega⟩
    else .badGateway

end ResourceLookup
