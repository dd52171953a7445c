/-!
# Events

What the program reports while it works. Every event has a level and a fixed message.
-/

set_option autoImplicit false
set_option relaxedAutoImplicit false

namespace ResourceLookup

/-- The weight of an event. -/
inductive Level where
  | debug
  | info
  | warn
  | error
  deriving DecidableEq

/-- The name of a level. -/
def Level.name : Level → String
  | .debug => "DEBUG"
  | .info => "INFO"
  | .warn => "WARN"
  | .error => "ERROR"

/-- Something worth reporting. -/
inductive Event where
  | doubleEncodedPath
  | contextHeaderSkipped
  | reservedPassthrough
  | reservedContextual
  | resolverMissing
  | headerValueDropped
  | headersPrepared
  | deprecatedBaseUriKey
  | settingsLoaded
  | requestSent
  | retrying
  | callRejected
  | callFailed
  | recoverableMatched
  | errorDocumentReturned
  | queryFallsBackToPost
  | fetchingUncached
  | lookupFailed
  | failureReadFailed
  | failureHit
  | failureRecorded
  | failureNotRecorded
  | failureNotCleared
  deriving DecidableEq

namespace Event

/-- The level of an event. -/
def level : Event → Level
  | .doubleEncodedPath | .contextHeaderSkipped | .headersPrepared | .settingsLoaded
  | .requestSent | .retrying | .queryFallsBackToPost | .fetchingUncached | .failureHit
  | .failureRecorded => .debug
  | .recoverableMatched => .info
  | .reservedPassthrough | .reservedContextual | .resolverMissing | .headerValueDropped
  | .deprecatedBaseUriKey | .callRejected | .errorDocumentReturned | .failureReadFailed
  | .failureNotRecorded | .failureNotCleared => .warn
  | .callFailed | .lookupFailed => .error

/-- The message of an event. -/
def message : Event → String
  | .doubleEncodedPath => "rejecting double-encoded path"
  | .contextHeaderSkipped => "skipping invalid request context header"
  | .reservedPassthrough => "reserved header can't be passed through; skipping"
  | .reservedContextual => "reserved header can't be resolved; skipping"
  | .resolverMissing => "no resolver registered for contextual header; omitting"
  | .headerValueDropped => "dropping header with invalid value"
  | .headersPrepared => "outbound headers prepared"
  | .deprecatedBaseUriKey =>
    "base URI resolved from deprecated config key; move it to the canonical key"
  | .settingsLoaded => "loaded remote service settings"
  | .requestSent => "sending remote request"
  | .retrying => "retrying remote call"
  | .callRejected => "remote call rejected"
  | .callFailed => "remote call failed"
  | .recoverableMatched => "remote error matched recoverable pattern"
  | .errorDocumentReturned => "remote returned error document"
  | .queryFallsBackToPost => "query not allowed as GET, sending as POST"
  | .fetchingUncached => "fetching uncached ids"
  | .lookupFailed => "remote lookup failed"
  | .failureReadFailed => "failure cache read failed; treating as miss"
  | .failureHit => "failure cache hit"
  | .failureRecorded => "recorded lookup failure"
  | .failureNotRecorded => "failed to record lookup failure"
  | .failureNotCleared => "failed to clear cached lookup failure"

/-- The line that an event writes. -/
def line (event : Event) : String :=
  event.level.name ++ " " ++ event.message

end Event

end ResourceLookup
