import ResourceLookup.Client.Transport
import ResourceLookup.Path.Safety
import ResourceLookup.Secret
import ResourceLookup.Settings.Service
import ResourceLookup.Text.Quoted

/-!
# Clients

A `Client` serves one remote service on behalf of one inbound request: its settings, what it works
with (transport, token provider, resolvers, jitter), and what it has loaded so far (token and
outbound headers). `Client.build` checks the parts and puts them together.

Paths become addresses below the base address; an absolute address is kept (`Client.urlFor`) and,
where credentials are at stake, has to have the origin of the base address (`Client.scopedUrl`).
`Client.allowsGet` decides whether a path may be sent as a GET request.

A `Session` is a client at work: the client, the monotonic clock, and the trace of everything that
happened so far in order.
-/

set_option autoImplicit false
set_option relaxedAutoImplicit false

namespace ResourceLookup

/-- Gives the token, or fails; the number counts the times it was asked before. -/
abbrev TokenProvider := Nat → Except CauseChain Secret

/-- Gives the answers in turn, the last of them ever after. -/
def TokenProvider.inTurn (first : Except CauseChain Secret)
    (rest : List (Except CauseChain Secret)) : TokenProvider :=
  fun asked ↦ (first :: rest).getD asked (rest.getLastD first)

/-- A client of one remote service. -/
structure Client where
  service : String
  baseUri : String
  settings : ClientSettings
  transport : Option Transport
  tokenProvider : TokenProvider
  resolvers : ResolverRegistry
  jitter : JitterSource
  context : RequestContext
  patterns : List String
  token : Option Secret
  headers : Option HeaderMap

/-- The parts of which a client is built. -/
structure ClientParts where
  service : String
  baseUri : String
  settings : ClientSettings
  transport : Option Transport
  tokenProvider : Option TokenProvider
  resolvers : ResolverRegistry
  jitter : JitterSource := JitterSource.none
  context : RequestContext

namespace Client

/-- A client of the given parts, if its base address, its header names and its token provider are
usable. -/
def build (parts : ClientParts) : Except ConfigurationError Client :=
  let baseUri := Text.trimEnd '/' (Text.trim parts.baseUri)
  match validateBaseUri parts.service "base_uri" baseUri with
  | .error error => .error error
  | .ok () =>
    match parts.settings.headerRules.validate with
    | .error invalid => .error (.invalidHeader invalid.name)
    | .ok () =>
      match parts.tokenProvider with
      | none => .error (.credentials parts.service ⟨"no token provider configured", []⟩)
      | some tokenProvider =>
        .ok ⟨parts.service, baseUri, parts.settings, parts.transport, tokenProvider,
          parts.resolvers, parts.jitter, parts.context, parts.settings.recoverablePatterns, none,
          none⟩

/-- The client with other patterns of recoverable errors. -/
def setPatterns (client : Client) (patterns : List String) : Client :=
  { client with patterns := patterns }

/-- The absolute address of a path; an absolute address is its own. -/
def urlFor (client : Client) (path : String) : String :=
  if Url.isAbsolute path then path
  else client.baseUri ++ "/" ++ Text.trimStart '/' path

/-- Whether two texts are addresses with the same origin. -/
def sameOrigin (first second : String) : Bool :=
  match Url.parse first, Url.parse second with
  | .ok first, .ok second => Url.sameOrigin first second
  | _, _ => false

/-- The absolute address of a path, which has to have the origin of the base address. -/
def scopedUrl (client : Client) (path : String) : Except ConfigurationError String :=
  let url := client.urlFor path
  if Url.isAbsolute path && !sameOrigin client.baseUri url then
    .error (.foreignUrl client.service url)
  else .ok url

/-- The number of octets that are left for a path. -/
def urlBudget (client : Client) : Nat :=
  client.settings.maxUrlLength - client.baseUri.utf8ByteSize

/-- Whether a path is short enough for the address of a GET request. -/
def fitsUrl (client : Client) (path : String) : Bool :=
  path.utf8ByteSize < client.urlBudget

/-- Whether a path may be sent as a GET request: it is safe and short enough. -/
def allowsGet (client : Client) (path : String) : Bool :=
  isSafePath path && client.fitsUrl path

/-- The client in diagnostic texts. -/
def diagnostic (client : Client) : String :=
  "RemoteClient \x7b service: " ++ Text.quoted client.service ++ ", base_uri: " ++
    Text.quoted client.baseUri ++ ", has_transport: " ++ Text.flagText client.transport.isSome ++
    ", headers_loaded: " ++ Text.flagText client.headers.isSome ++
    ", recoverable_error_patterns: " ++ Text.quotedList client.patterns ++ ", .. \x7d"

end Client

/-- Something that a client, or the repository on top of it, does. -/
inductive Activity where
  | event (event : Event)
  | tokenAsked
  | resolverAsked (name : String)
  | sent (request : Request)
  | slept (pause : Duration)
  | fetched (ids : List String)
  deriving DecidableEq

/-- A client at work: the client, the monotonic clock in nanoseconds, and what happened so far. -/
structure Session where
  client : Client
  now : Nat
  trace : List Activity

namespace Session

/-- A client that has done nothing yet. -/
def start (client : Client) : Session := ⟨client, 0, []⟩

/-- The session with one more thing done. -/
def record (session : Session) (activity : Activity) : Session :=
  { session with trace := session.trace ++ [activity] }

/-- The session with an event reported. -/
def report (session : Session) (event : Event) : Session :=
  session.record (.event event)

/-- The session with events reported. -/
def reportAll (session : Session) (events : List Event) : Session :=
  { session with trace := session.trace ++ events.map .event }

/-- The session after a pause, which ends on a whole millisecond. -/
def sleep (session : Session) (pause : Duration) : Session :=
  { session with
    now := session.now + pause.millisRoundedUp * 1000000
    trace := session.trace ++ [.slept pause] }

/-- The requests in a trace, in order. -/
def requestsIn (trace : List Activity) : List Request :=
  trace.filterMap fun activity ↦ match activity with
    | .sent request => some request
    | _ => none

/-- The events in a trace, in order. -/
def eventsIn (trace : List Activity) : List Event :=
  trace.filterMap fun activity ↦ match activity with
    | .event event => some event
    | _ => none

/-- How many times the token provider was asked in a trace. -/
def tokenQuestionsIn (trace : List Activity) : Nat :=
  trace.countP (· == .tokenAsked)

/-- How many times a resolver was asked in a trace. -/
def resolverQuestionsIn (trace : List Activity) : Nat :=
  trace.countP fun activity ↦ match activity with
    | .resolverAsked _ => true
    | _ => false

/-- The pauses in a trace, in order. -/
def pausesIn (trace : List Activity) : List Duration :=
  trace.filterMap fun activity ↦ match activity with
    | .slept pause => some pause
    | _ => none

/-- The pause before the repetition with that number. -/
def pauseBefore (session : Session) (number : Nat) : Duration :=
  session.client.settings.retry.backoff.pause number
    (session.client.jitter (pausesIn session.trace).length)

/-- The lists of identifiers fetched in a trace, in order. -/
def fetchesIn (trace : List Activity) : List (List String) :=
  trace.filterMap fun activity ↦ match activity with
    | .fetched ids => some ids
    | _ => none

end Session

end ResourceLookup
