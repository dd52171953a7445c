import ResourceLookup.Http.Exchange
import ResourceLookup.Repository.Lookup
import ResourceLookup.Summary.Failure

/-!
# Summaries of answers

What a program that watches this one is told about requests, responses, settings and lookups, as a
JSON object.
-/

set_option autoImplicit false
set_option relaxedAutoImplicit false

namespace ResourceLookup

/-- The summary of a duration. -/
def Duration.summary (duration : Duration) : Json :=
  .object
    [("secs", Json.ofNat duration.seconds), ("nanos", Json.ofNat duration.subsecond)]

/-- The summary of headers: octets that are no UTF-8 are replaced. -/
def HeaderMap.summary (headers : HeaderMap) : Json :=
  .object (headers.map fun (name, value) ↦ (name.text, .string (Form.octetText value.octets)))

/-- The summary of a request that was sent to an address. -/
def callSummary (call : Call) (url : String) (headers : HeaderMap) : Json :=
  .object
    [("method", .string call.method), ("url", .string url), ("headers", headers.summary),
     ("body", call.body.getD .null)]

/-- The summary of a request as it was handed to the transport. -/
def Request.summary (request : Request) : Json :=
  callSummary request.call request.url request.headers

/-- The summary of a request as it arrived at a server. -/
def Arrival.summary (origin : String) (arrival : Arrival) : Json :=
  callSummary arrival.call (origin ++ arrival.target) arrival.headers

/-- The summary of a response. -/
def Response.summary (response : Response) : Json :=
  .object
    [("status", Json.ofOption Json.ofNat response.rawStatus),
     ("document", response.document.encode), ("is_success", .bool response.isSuccess),
     ("has_errors", .bool response.hasErrors)]

/-- The summary of what became of a request. -/
def Outcome.summary : Outcome → Json
  | .ok response => response.summary
  | .error error => error.summary

/-- The summary of what a GET request brought. -/
def Fetched.summary : Fetched → Json
  | .document response =>
    .object [("recoverable", .bool false), ("response", response.summary)]
  | .recoverable error =>
    .object
      [("recoverable", .bool true), ("status", Json.ofNat error.status.code),
       ("details", Json.ofStrings error.details),
       ("matched_pattern", .string error.matchedPattern)]

/-- The summary of primary data with its shape. -/
def shapeSummary (data : Option PrimaryData) : Json :=
  .object
    [("data", Json.ofOption PrimaryData.encode data),
     ("shape", .string (PrimaryData.shapeName data))]

/-- The summary of the lifetimes of failures, by category. -/
def FailurePolicy.ttlSummary (policy : FailurePolicy) : Json :=
  .object (FailureCategory.all.map fun category ↦
    (category.name, (policy.ttlFor category).summary))

/-- The summary of a failure policy: its text, and the lifetimes of failures. -/
def FailurePolicy.summary (policy : FailurePolicy) : Json :=
  .object
    [("json", .string policy.encode.compact), ("enabled", .bool policy.enabled),
     ("ttls", policy.ttlSummary)]

/-- The summary of the failure cache of a repository. -/
def FailureCache.summary (cache : FailureCache) : Json :=
  .object [("repository", .string cache.repository), ("config", cache.policy.encode)]

/-- The summary of a collection of so many things. -/
def sizeSummary (size : Nat) : Json :=
  .object [("len", Json.ofNat size), ("empty", .bool (size == 0))]

/-- The summary of a secret, which tells it. -/
def Secret.summary (secret : Secret) : Json :=
  .object
    [("blank", .bool secret.isBlank), ("expose", .string secret.exposed),
     ("from_string", .string secret.exposed), ("debug", .string secret.shown),
     ("display", .string secret.shown), ("provider", .string secret.providerDiagnostic)]

/-- The summary of a category. -/
def FailureCategory.summary (category : FailureCategory) : Json :=
  .object
    [("name", .string category.name), ("json", .string category.name),
     ("transient", .bool category.isTransient),
     ("recommended_ttl", Json.ofOption Json.ofNat category.recommendedSeconds)]

/-- The summary of an inbound request: the values of the given headers, and what it holds. -/
def RequestContext.summary (context : RequestContext) (names : List String) : Json :=
  .object
    [("values", .array (names.map fun name ↦ Json.ofOption .string (context.header? name))),
     ("request_id", Json.ofOption .string context.requestId?),
     ("trace_id", Json.ofOption .string context.traceId?),
     ("names", Json.ofStrings
       (Text.sortedSet ((HeaderFields.names context.fields).map HeaderName.text))),
     ("count", Json.ofNat context.fields.length)]

/-- The number of pauses in the summary of settings. -/
def pausesShown : Nat := 4

/-- The summary of settings, with the first pauses and the lifetimes of failures. -/
def ClientSettings.summary (settings : ClientSettings) : Json :=
  .object
    [("config", settings.encode),
     ("delays", .array ((List.range pausesShown).map fun attempt ↦
       (settings.retry.backoff.delay attempt).summary)),
     ("ttls", settings.failurePolicy.ttlSummary)]

/-- The summary of a document. -/
def Document.summary (document : Document) : Json :=
  let resources := document.data.map PrimaryData.resources
  .object
    [("document", document.encode), ("json", .string document.encode.compact),
     ("has_errors", .bool document.hasErrors),
     ("error_details", Json.ofStrings document.errorDetails),
     ("errors_only", (Document.ofErrors document.errors).encode),
     ("is_default", .bool (document = Document.empty)),
     ("data", .string (PrimaryData.shapeName document.data)),
     ("ids", Json.ofOption Json.ofStrings (resources.map (·.map Resource.id))),
     ("kinds", Json.ofOption Json.ofStrings (resources.map (·.map Resource.kind)))]

/-- The summary of the resources that a query picks. -/
def ResourceQuery.summary (query : ResourceQuery) (results : ResultCache) : Json :=
  .object
    [("ids", Json.ofStrings (query.ids results)), ("count", Json.ofNat (query.count results)),
     ("first", Json.ofOption Resource.encode (query.first? results)),
     ("kinds", Json.ofStrings ((query.all results).map Resource.kind))]

/-- The summary of a repository and its client. -/
def Repository.summary (repository : Repository) : Json :=
  let client := repository.session.client
  .object
    [("service", .string client.service), ("base_uri", .string client.baseUri),
     ("patterns", Json.ofStrings client.patterns),
     ("headers", Json.ofOption HeaderMap.summary client.headers),
     ("request_id", Json.ofOption .string client.context.requestId?),
     ("max_url_length", Json.ofNat client.settings.maxUrlLength),
     ("name", .string repository.name)]

end ResourceLookup
