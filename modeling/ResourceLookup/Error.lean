import ResourceLookup.Failure.Cause
import ResourceLookup.Failure.Classification
import ResourceLookup.Failure.Entry
import ResourceLookup.Json.Decode
import ResourceLookup.Status
import ResourceLookup.Url.Basic

/-!
# Errors of calls and lookups

A call fails with a `RemoteError`: a mistake in the configuration, a failure of the remote service,
a failure that is remembered, or a failure of the caller's own code. `RemoteError.message` words it,
`RemoteError.status` is the status it carries, and `RemoteError.report` is what the classification
of failures looks at.

A `ServiceError` carries the status that the remote answered with wherever there is one. A status
that was made up for want of a usable response is synthetic, and where another status is reported
than the remote sent, what it sent is kept beside it.
-/

set_option autoImplicit false
set_option relaxedAutoImplicit false

namespace ResourceLookup

/-- Why a base address cannot be used. -/
inductive BaseUriFault where
  | malformed (fault : Url.Fault)
  | missingHost
  | unsupportedScheme (scheme : String)
  deriving DecidableEq

/-- The wording of the reason. -/
def BaseUriFault.message : BaseUriFault → String
  | .malformed fault => fault.message
  | .missingHost => "missing host"
  | .unsupportedScheme scheme => "unsupported scheme '" ++ scheme ++ "'"

/-- A mistake in the configuration of a client or of what it works with. -/
inductive ConfigurationError where
  | missingBaseUri (service : String) (checkedKeys : List String)
  | invalidBaseUri (service uri key reason : String)
  | invalidConfig (reason : String)
  | transportNotInitialized (service : String)
  | credentials (service : String) (source : CauseChain)
  | invalidToken (service : String)
  | invalidHeader (name : String)
  | foreignUrl (service url : String)
  | transport (source : CauseChain)
  deriving DecidableEq

/-- The wording of a mistake in the configuration. -/
def ConfigurationError.message : ConfigurationError → String
  | .missingBaseUri service checkedKeys =>
    "no base URI configured for remote service '" ++ service ++ "'; checked keys: " ++
      String.intercalate ", " checkedKeys
  | .invalidBaseUri service uri key reason =>
    "invalid base URI '" ++ uri ++ "' for remote service '" ++ service ++ "' (from '" ++ key ++
      "'): " ++ reason
  | .invalidConfig reason => "invalid remote repository config: " ++ reason
  | .transportNotInitialized service =>
    "transport is not initialized for remote service '" ++ service ++ "'"
  | .credentials service source =>
    "failed to obtain access token for remote service '" ++ service ++ "': " ++ source.text
  | .invalidToken service =>
    "token provider returned an empty access token for remote service '" ++ service ++ "'"
  | .invalidHeader name => "invalid outbound header '" ++ name ++ "'"
  | .foreignUrl service url =>
    "URL '" ++ url ++ "' is outside the base URI of remote service '" ++ service ++ "'"
  | .transport source => "failed to build HTTP transport: " ++ source.text

/-- A failed call of a remote service. -/
structure ServiceError where
  service : String
  endpoint : String
  status : StatusCode
  details : List String
  synthetic : Bool
  upstreamStatus : Option Nat
  source : Option CauseChain
  deriving DecidableEq

namespace ServiceError

/-- A failure with the status that the remote answered with. -/
def answered (service endpoint : String) (status : StatusCode) (details : List String) :
    ServiceError :=
  ⟨service, endpoint, status, details, false, none, none⟩

/-- A failure with a status made up for want of a usable response. -/
def madeUp (service endpoint : String) (status : StatusCode) (details : List String) :
    ServiceError :=
  ⟨service, endpoint, status, details, true, none, none⟩

/-- The wording of the failure without its cause. -/
def message (error : ServiceError) : String :=
  error.service ++ " " ++ error.endpoint ++ " failed with HTTP " ++ toString error.status.code ++
    (if error.details.isEmpty then "" else ": " ++ String.intercalate "; " error.details)

/-- The failure with its cause. -/
def chain (error : ServiceError) : CauseChain :=
  ⟨error.message, match error.source with
    | none => []
    | some source => source.toList⟩

/-- What the classification looks at: a synthetic status does not count. -/
def report (error : ServiceError) : FailureReport :=
  ⟨if error.synthetic then none else some error.status.code,
    if error.synthetic then "TransportError" else "RemoteServiceError",
    error.chain.joined⟩

end ServiceError

/-- Why a call or a lookup failed. -/
inductive RemoteError where
  | configuration (error : ConfigurationError)
  | service (error : ServiceError)
  | cachedFailure (failure : CachedLookupFailure)
  | other (chain : CauseChain)
  deriving DecidableEq

namespace RemoteError

/-- The wording of the failure. -/
def message : RemoteError → String
  | .configuration error => error.message
  | .service error => error.message
  | .cachedFailure failure => failure.message
  | .other chain => chain.text

/-- The status that the failure carries. -/
def status : RemoteError → Option StatusCode
  | .service error => some error.status
  | .cachedFailure failure => failure.entry.httpStatus.bind StatusCode.ofNat?
  | .configuration _ | .other _ => none

/-- Whether the failure is one of the remote service. -/
def isService : RemoteError → Bool
  | .service _ => true
  | _ => false

/-- Whether the failure is a remembered one. -/
def isCachedFailure : RemoteError → Bool
  | .cachedFailure _ => true
  | _ => false

/-- What the classification of failures looks at. -/
def report : RemoteError → FailureReport
  | .service error => error.report
  | .cachedFailure failure =>
    ⟨failure.entry.httpStatus, failure.entry.errorType, failure.entry.message⟩
  | .configuration error => ⟨none, "ConfigurationError", error.message⟩
  | .other chain => ⟨none, "Error", chain.joined⟩

end RemoteError

end ResourceLookup
