import ResourceLookup.Client.Transport
import ResourceLookup.Error

/-!
# Summaries of failures

What a program that watches this one is told about a failure, as a JSON object. Every summary has
the kind of the failure under `error` and its wording under `message`, unless the wording depends on
a text from outside that has no fixed form; errors of the remote service and remembered failures
tell all they know. `RemoteError.summary` adds the status and what the classification looks at.
-/

set_option autoImplicit false
set_option relaxedAutoImplicit false

namespace ResourceLookup

/-- A summary of a kind of failure without wording. -/
def kindSummary (kind : String) : Json :=
  .object [("error", .string kind)]

/-- A summary of a kind of failure with its wording. -/
def failureSummary (kind message : String) : Json :=
  .object [("error", .string kind), ("message", .string message)]

/-- An object with more members behind its own. -/
def Json.extend (value : Json) (more : List (String × Json)) : Json :=
  match value with
  | .object members => .object (members ++ more)
  | _ => .object more

namespace ConfigurationError

/-- The kind of a mistake. -/
def kind : ConfigurationError → String
  | .missingBaseUri _ _ => "MissingBaseUri"
  | .invalidBaseUri _ _ _ _ => "InvalidBaseUri"
  | .invalidConfig _ => "InvalidConfig"
  | .transportNotInitialized _ => "TransportNotInitialized"
  | .credentials _ _ => "Credentials"
  | .invalidToken _ => "InvalidToken"
  | .invalidHeader _ => "InvalidHeader"
  | .foreignUrl _ _ => "ForeignUrl"
  | .transport _ => "Transport"

/-- The summary of a mistake. -/
def summary (error : ConfigurationError) : Json :=
  match error with
  | .invalidConfig _ => kindSummary error.kind
  | _ => failureSummary error.kind error.message

end ConfigurationError

/-- The summary of what the classification looks at, with its outcome. -/
def FailureReport.summary (report : FailureReport) : Json :=
  .object
    [("http_status", Json.ofOption Json.ofNat report.httpStatus),
     ("error_type", .string report.errorType), ("message", .string report.message),
     ("category", .string (classify report).name)]

/-- The summary of a failed call. -/
def ServiceError.summary (error : ServiceError) : Json :=
  .object
    [("error", .string "Service"), ("message", .string error.message),
     ("service", .string error.service), ("endpoint", .string error.endpoint),
     ("status", Json.ofNat error.status.code), ("details", Json.ofStrings error.details),
     ("upstream_status", Json.ofOption Json.ofNat error.upstreamStatus),
     ("synthetic", .bool error.synthetic), ("client_error", .bool error.status.isClientError),
     ("server_error", .bool error.status.isServerError),
     ("has_source", .bool error.source.isSome), ("source", error.report.summary)]

/-- The summary of a remembered failure. -/
def CachedLookupFailure.summary (failure : CachedLookupFailure) : Json :=
  let entry := failure.entry
  .object
    [("error", .string "CachedFailure"), ("message", .string failure.message),
     ("repository", .string entry.repository), ("lookup_type", .string entry.lookupType),
     ("identifiers", Json.ofStrings entry.identifiers),
     ("original_error_type", .string entry.errorType),
     ("original_message", .string entry.message),
     ("http_status", Json.ofOption Json.ofNat entry.httpStatus),
     ("category", .string entry.category.name), ("ttl_secs", Json.ofNat entry.ttlSeconds),
     ("not_found", .bool (entry.category = .notFound)),
     ("auth_error", .bool (entry.category = .authError)),
     ("rate_limited", .bool (entry.category = .rateLimited)),
     ("transient", .bool entry.category.isTransient)]

/-- The summary of a stored failure without the time it was made. -/
def FailureEntry.summary (entry : FailureEntry) : Json :=
  .object
    [("repository", .string entry.repository), ("lookup_type", .string entry.lookupType),
     ("identifiers", Json.ofStrings entry.identifiers), ("error_type", .string entry.errorType),
     ("message", .string entry.message),
     ("http_status", Json.ofOption Json.ofNat entry.httpStatus),
     ("category", .string entry.category.name), ("ttl_secs", Json.ofNat entry.ttlSeconds)]

/-- The summary of a failed call or lookup without what all of them have. -/
def RemoteError.ownSummary (error : RemoteError) : Json :=
  match error with
  | .configuration error => error.summary
  | .service error => error.summary
  | .cachedFailure failure => failure.summary
  | .other _ => failureSummary "Other" error.message

/-- The summary of a failed call or lookup. -/
def RemoteError.summary (error : RemoteError) : Json :=
  error.ownSummary.extend
    [("status", Json.ofOption (fun status ↦ Json.ofNat status.code) error.status),
     ("is_service", .bool error.isService), ("is_cached_failure", .bool error.isCachedFailure),
     ("source", error.report.summary)]

namespace TransportError

/-- The kind of a transport error. -/
def kind : TransportError → String
  | .timeout _ => "Timeout"
  | .connect _ => "Connect"
  | .io _ => "Io"
  | .malformed _ _ => "Malformed"
  | .bodyTooLarge _ _ => "BodyTooLarge"
  | .invalidUri _ _ => "InvalidUri"

/-- The summary of a transport error. -/
def summary (error : TransportError) : Json :=
  (failureSummary error.kind error.message).extend
    [("response_status", Json.ofOption Json.ofNat error.responseStatus)]

end TransportError

end ResourceLookup
