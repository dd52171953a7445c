import ResourceLookup.Failure.Policy
import ResourceLookup.Header.Outbound
import ResourceLookup.Retry.Backoff
import ResourceLookup.Settings.Tree

/-!
# Settings of a client

`ClientSettings` are what every call of a client goes by. They come from the section
`remote_repository` of a configuration, overlaid with the section of the service below it
(`ClientSettings.ofConfig`). What is left out has a default, what is unknown is ignored except
inside the closed sections for retries, the failure cache and the transport.
-/

set_option autoImplicit false
set_option relaxedAutoImplicit false

namespace ResourceLookup

/-- Settings of the transport over HTTP. -/
structure TransportSettings where
  requestTimeout : Duration
  maxBodySize : Nat
  userAgent : String
  allowInsecureHttp : Bool
  deriving DecidableEq

namespace TransportSettings

/-- Half a minute for a request, ten mebibytes for a body, and encrypted connections only. -/
def standard : TransportSettings :=
  ⟨Duration.ofSeconds 30, 10 * 1024 * 1024, "remote-repo/0.1.4", false⟩

/-- The names of the members of the settings. -/
def memberNames : List String :=
  ["request_timeout", "max_body_size", "user_agent", "allow_insecure_http"]

/-- The settings in a JSON value; members that are left out have their defaults. -/
def decode (value : Json) : Json.Decoded TransportSettings := do
  let fields ← Json.record "transport settings" memberNames true .ignored value
  let requestTimeout ←
    fields.withDefault "request_timeout" standard.requestTimeout HumanDuration.decode
  let maxBodySize ← fields.withDefault "max_body_size" standard.maxBodySize Json.asNat64
  let userAgent ← fields.withDefault "user_agent" standard.userAgent Json.asString
  let allowInsecureHttp ←
    fields.withDefault "allow_insecure_http" standard.allowInsecureHttp Json.asBool
  pure ⟨requestTimeout, maxBodySize, userAgent, allowInsecureHttp⟩

/-- The settings as a JSON value. -/
def encode (settings : TransportSettings) : Json :=
  .object
    [("request_timeout", HumanDuration.encode settings.requestTimeout),
     ("max_body_size", Json.ofNat settings.maxBodySize),
     ("user_agent", .string settings.userAgent),
     ("allow_insecure_http", .bool settings.allowInsecureHttp)]

end TransportSettings

/-- What every call of a client goes by. -/
structure ClientSettings where
  maxUrlLength : Nat
  logRequests : Bool
  retry : RetrySettings
  recoverablePatterns : List String
  passthroughHeaders : List String
  contextualHeaders : List (String × String)
  failurePolicy : FailurePolicy
  transport : TransportSettings

namespace ClientSettings

/-- The settings where nothing is configured. -/
def standard : ClientSettings :=
  ⟨2048, false, RetrySettings.standard, [], [], [], FailurePolicy.standard,
    TransportSettings.standard⟩

/-- Which headers are passed through and which are resolved. -/
def headerRules (settings : ClientSettings) : HeaderRules :=
  ⟨settings.passthroughHeaders, settings.contextualHeaders⟩

/-- The names of the members of the settings. -/
def memberNames : List String :=
  ["max_url_length", "log_requests", "retry", "recoverable_error_patterns", "passthrough_headers",
    "contextual_headers", "failure_cache", "transport"]

/-- Names with texts from the members of an object. -/
def decodeTexts : List (String × Json) → Json.Decoded (List (String × String))
  | [] => .ok []
  | (name, value) :: rest =>
    match Json.asString value with
    | .error mismatch => .error mismatch
    | .ok text =>
      match decodeTexts rest with
      | .error mismatch => .error mismatch
      | .ok texts => .ok ((name, text) :: texts)

/-- The settings in a JSON value; members that are left out have their defaults. -/
def decode (value : Json) : Json.Decoded ClientSettings := do
  let fields ← Json.record "client settings" memberNames false .ignored value
  let maxUrlLength ← fields.withDefault "max_url_length" standard.maxUrlLength Json.asNat64
  let logRequests ← fields.withDefault "log_requests" standard.logRequests Json.asBool
  let retry ← fields.withDefault "retry" standard.retry (RetrySettings.decode .ignored)
  let recoverablePatterns ← fields.withDefault "recoverable_error_patterns"
    standard.recoverablePatterns (Json.asList Json.asString)
  let passthroughHeaders ← fields.withDefault "passthrough_headers"
    standard.passthroughHeaders (Json.asList Json.asString)
  let contextualHeaders ← fields.withDefault "contextual_headers" standard.contextualHeaders
    fun texts ↦ do
      let members ← Json.asMembers texts
      decodeTexts (Json.sortMembers members)
  let failurePolicy ←
    fields.withDefault "failure_cache" standard.failurePolicy (FailurePolicy.decode .ignored)
  let transport ← fields.withDefault "transport" standard.transport TransportSettings.decode
  pure ⟨maxUrlLength, logRequests, retry, recoverablePatterns, passthroughHeaders,
    contextualHeaders, failurePolicy, transport⟩

/-- The settings as a JSON value. -/
def encode (settings : ClientSettings) : Json :=
  .object
    [("max_url_length", Json.ofNat settings.maxUrlLength),
     ("log_requests", .bool settings.logRequests),
     ("retry", settings.retry.encode),
     ("recoverable_error_patterns", Json.ofStrings settings.recoverablePatterns),
     ("passthrough_headers", Json.ofStrings settings.passthroughHeaders),
     ("contextual_headers", .object (settings.contextualHeaders.map fun (name, resolver) ↦
       (name, .string resolver))),
     ("failure_cache", settings.failurePolicy.encode),
     ("transport", settings.transport.encode)]

/-- The path of the section that all services share. -/
def sharedSection : String := "remote_repository"

/-- The path of the section of a service. -/
def serviceSection (service : String) : String :=
  sharedSection ++ ".services." ++ service

/-- The shared section overlaid with the section of the service. -/
def mergedSection (config : Json) (service : String) : List (String × Json) :=
  Tree.merge (Tree.sectionAt config sharedSection)
    (Tree.sectionAt config (serviceSection service))

/-- The settings of a service in a configuration. -/
def ofConfig (config : Json) (service : String) : Json.Decoded ClientSettings :=
  match config with
  | .object _ => decode (.object (mergedSection config service))
  | other => .error (.wrongKind other.describe "map")

end ClientSettings

end ResourceLookup
