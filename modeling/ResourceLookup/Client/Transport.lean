import ResourceLookup.Document.Basic
import ResourceLookup.Failure.Cause
import ResourceLookup.Header.Basic
import ResourceLookup.Time.Duration

/-!
# The way to the remote

A client hands requests to a `Transport` and gets responses or transport errors back. A transport
may answer as it likes; it is given all requests that the client sent before, so that it can be any
behaviour over time. `Outcome.ofBody` is the outcome of a body that arrived with a status.

A transport error is told with its causes (`TransportError.chain`).
-/

set_option autoImplicit false
set_option relaxedAutoImplicit false

namespace ResourceLookup

/-- The method of a request, with the body where there is one. -/
inductive Call where
  | get
  | post (body : Json)
  deriving DecidableEq

/-- The name of a method. -/
def Call.method : Call → String
  | .get => "GET"
  | .post _ => "POST"

/-- The body of a request. -/
def Call.body : Call → Option Json
  | .get => none
  | .post body => some body

/-- A request as it is handed to the transport. -/
structure Request where
  call : Call
  url : String
  headers : HeaderMap
  deriving DecidableEq

/-- Why no usable response arrived. -/
inductive TransportError where
  | timeout (limit : Duration)
  | connect (cause : CauseChain)
  | io (cause : CauseChain)
  | malformed (status : Option Nat) (cause : DocumentError)
  | bodyTooLarge (status : Option Nat) (limit : Nat)
  | invalidUri (url reason : String)
  deriving DecidableEq

namespace TransportError

/-- The status of the response on which the error happened, in the wording of an error. -/
def statusNote : Option Nat → String
  | some status => " (HTTP " ++ toString status ++ ")"
  | none => ""

/-- The wording of the error. -/
def message : TransportError → String
  | .timeout limit => "request timed out after " ++ toString limit.millis ++ "ms"
  | .connect cause => "connection failed: " ++ cause.text
  | .io cause => "transport error: " ++ cause.text
  | .malformed status cause =>
    "malformed response body" ++ statusNote status ++ ": " ++ cause.message
  | .bodyTooLarge status limit =>
    "response body exceeds limit of " ++ toString limit ++ " bytes" ++ statusNote status
  | .invalidUri url reason => "invalid request URL '" ++ url ++ "': " ++ reason

/-- The error with its causes. -/
def chain (error : TransportError) : CauseChain :=
  ⟨error.message, match error with
    | .connect cause | .io cause => cause.toList
    | .malformed _ cause => cause.chain
    | .timeout _ | .bodyTooLarge _ _ | .invalidUri _ _ => []⟩

/-- The status of the response on which the error happened, if one arrived. -/
def responseStatus : TransportError → Option Nat
  | .malformed status _ | .bodyTooLarge status _ => status
  | .timeout _ | .connect _ | .io _ | .invalidUri _ _ => none

end TransportError

/-- What became of a request. -/
abbrev Outcome := Except TransportError Response

/-- The outcome of a body that arrived with a status: a response if the body is a document. -/
def Outcome.ofBody (status : Option Nat) (body : List UInt8) : Outcome :=
  match Document.ofOctets body with
  | .ok document => .ok ⟨status.bind StatusCode.ofNat?, document⟩
  | .error cause => .error (.malformed status cause)

/-- Answers requests, given the requests sent before. -/
abbrev Transport := List Request → Request → Outcome

/-- Answers requests with the given outcomes in turn, and all later ones with the same outcome. -/
def Transport.inTurn (outcomes : List Outcome) (afterwards : Outcome) : Transport :=
  fun earlier _ ↦ outcomes.getD earlier.length afterwards

end ResourceLookup
