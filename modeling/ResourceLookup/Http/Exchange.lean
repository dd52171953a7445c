import ResourceLookup.Client.Transport
import ResourceLookup.Error
import ResourceLookup.Http.RequestUri
import ResourceLookup.Settings.Client

/-!
# Requests over HTTP

The transport over HTTP, with the server as a function: what it makes of a request depends on how
many arrived before (`HttpServer`). A request arrives if its address can be used, has a scheme that
is allowed and leads to the server (`HttpTransport.arrival`); what comes back is a response, a
closed connection, or nothing within the time for a request (`HttpTransport.receive`). The
configured user agent replaces any other.

`HttpTransport.toServer` is the transport to one server, which may have other clients.
-/

set_option autoImplicit false
set_option relaxedAutoImplicit false

namespace ResourceLookup

/-- What a server makes of a request. -/
inductive HttpReply where
  | response (status : Nat) (body : List UInt8)
  | closed
  | silent

/-- A server: the host and the port where it listens, and what it makes of each request by the
number of those that arrived before. -/
structure HttpServer where
  host : String
  reply : Nat → HttpReply

/-- A request as it arrives at a server. -/
structure Arrival where
  call : Call
  target : String
  headers : HeaderMap
  deriving DecidableEq

/-- The transport over HTTP. -/
structure HttpTransport where
  settings : TransportSettings
  userAgent : HeaderValue

namespace HttpTransport

/-- The transport with the given settings, whose user agent has to be a header value. -/
def ofSettings (settings : TransportSettings) : Except ConfigurationError HttpTransport :=
  match HeaderValue.ofText? settings.userAgent with
  | some userAgent => .ok ⟨settings, userAgent⟩
  | none => .error (.invalidHeader HeaderName.userAgent.text)

/-- The text of any failure to connect. -/
def connectText : String := "client error (Connect)"

/-- The failure to connect with an address of a scheme that is not allowed. -/
def unsupportedScheme (scheme : String) : TransportError :=
  .connect ⟨connectText, ["unsupported scheme " ++ scheme]⟩

/-- The failure to connect where nothing listens. -/
def refused : TransportError :=
  .connect ⟨connectText, ["tcp connect error", "Connection refused (os error 111)"]⟩

/-- The failure of an address without scheme or host. -/
def notAbsolute : TransportError :=
  .io ⟨"client error (UserAbsoluteUriRequired)", []⟩

/-- The failure of a connection that is closed without a response. -/
def connectionClosed : TransportError :=
  .io ⟨"client error (SendRequest)", ["connection closed before message completed"]⟩

/-- Whether requests may be sent to addresses of the scheme. -/
def allowsScheme (transport : HttpTransport) (scheme : String) : Bool :=
  scheme == "https" || (scheme == "http" && transport.settings.allowInsecureHttp)

/-- The request as it arrives at the server, or why it does not. -/
def arrival (transport : HttpTransport) (server : HttpServer) (request : Request) :
    Except TransportError Arrival :=
  match RequestUri.parse request.url with
  | .error fault => .error (.invalidUri request.url fault.message)
  | .ok uri =>
    match uri.scheme with
    | none => .error notAbsolute
    | some scheme =>
      if !transport.allowsScheme scheme then .error (unsupportedScheme scheme)
      else if scheme == "http" && uri.host == server.host then
        .ok ⟨request.call, uri.target,
          HeaderMap.insert .userAgent transport.userAgent request.headers⟩
      else .error refused

/-- Whether responses of the status come without a body. -/
def isBodyless (status : Nat) : Bool :=
  status == 204 || status == 304

/-- What becomes of a request that arrived. -/
def receive (transport : HttpTransport) : HttpReply → Outcome
  | .closed => .error connectionClosed
  | .silent => .error (.timeout transport.settings.requestTimeout)
  | .response status body =>
    let body := if isBodyless status then [] else body
    if transport.settings.maxBodySize < body.length then
      .error (.bodyTooLarge (some status) transport.settings.maxBodySize)
    else Outcome.ofBody (some status) body

/-- Whether a request arrives at the server. -/
def arrives (transport : HttpTransport) (server : HttpServer) (request : Request) : Bool :=
  match transport.arrival server request with
  | .ok _ => true
  | .error _ => false

/-- The requests that arrive at the server, as they arrive. -/
def arrivals (transport : HttpTransport) (server : HttpServer) (requests : List Request) :
    List Arrival :=
  requests.filterMap fun request ↦ (transport.arrival server request).toOption

/-- The transport to a server at which so many requests of others arrived. -/
def toServer (transport : HttpTransport) (server : HttpServer) (others : Nat) : Transport :=
  fun earlier request ↦
    match transport.arrival server request with
    | .error error => .error error
    | .ok _ =>
      transport.receive
        (server.reply (others + earlier.countP (transport.arrives server)))

end HttpTransport

end ResourceLookup
