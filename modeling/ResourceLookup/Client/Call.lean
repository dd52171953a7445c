import ResourceLookup.Client.Credentials
import ResourceLookup.Client.Verdict
import ResourceLookup.Url.Form

/-!
# Calls

The network operations of a client. A request is sent and, as long as the verdict allows it and
repetitions are left, sent again after a pause (`Session.exchange`). `Session.get` intercepts
recoverable errors, `Session.getUserUrl` every failed response, and `Session.post` none.
`Session.fetchByQuery` sends parameters in the address of a GET request where that is allowed, and
otherwise as the body of a POST request. `Session.handleResponse` judges a response that the caller
already has.
-/

set_option autoImplicit false
set_option relaxedAutoImplicit false

namespace ResourceLookup

/-- How a call ends that does not fail: with a success, or with what it intercepts. -/
inductive Answer (α : Type) where
  | document (response : Response)
  | intercepted (hit : α)

namespace Session

/-- Sends a request. -/
def send (session : Session) (transport : Transport) (request : Request) : Outcome × Session :=
  (transport (requestsIn session.trace) request, session.record (.sent request))

/-- Reports that a request is about to be sent, if requests are to be reported. -/
def announce (session : Session) : Session :=
  if session.client.settings.logRequests then session.report .requestSent else session

/-- One request and the verdict on its outcome. -/
def attempt {α : Type} (transport : Transport) (request : Request)
    (intercept : Response → Option α) (session : Session) : Verdict α × Session :=
  let (outcome, session) := session.announce.send transport request
  (session.client.judge request.url intercept outcome, session)

/-- The end of a call with an error, which is reported. -/
def fail {α : Type} (error : ServiceError) (session : Session) :
    Except ServiceError α × Session :=
  (.error error, session.report error.event)

/-- Sends a request until the verdict is not to retry, or no repetition is left. `number` counts the
repetitions so far. -/
def exchange {α : Type} (transport : Transport) (request : Request)
    (intercept : Response → Option α) (number : Nat) :
    Nat → Session → Except ServiceError (Answer α) × Session
  | 0, session =>
    match attempt transport request intercept session with
    | (.done response, session) => (.ok (.document response), session)
    | (.intercepted hit, session) => (.ok (.intercepted hit), session)
    | (.final error, session) | (.retryable error, session) => fail error session
  | left + 1, session =>
    match attempt transport request intercept session with
    | (.done response, session) => (.ok (.document response), session)
    | (.intercepted hit, session) => (.ok (.intercepted hit), session)
    | (.final error, session) => fail error session
    | (.retryable _, session) =>
      exchange transport request intercept (number + 1) left
        ((session.report .retrying).sleep (session.pauseBefore number))

/-- A call to an address: the transport has to be there, then the headers are loaded, then the
request is sent. -/
def run {α : Type} (url : String) (call : Call) (intercept : Response → Option α)
    (session : Session) : Except RemoteError (Answer α) × Session :=
  match session.client.transport with
  | none => (.error (.configuration (.transportNotInitialized session.client.service)), session)
  | some transport =>
    match session.ensureHeaders with
    | (.error error, session) => (.error (.configuration error), session)
    | (.ok headers, session) =>
      match exchange transport ⟨call, url, headers⟩ intercept 0
          session.client.settings.retry.retries session with
      | (.error error, session) => (.error (.service error), session)
      | (.ok answer, session) => (.ok answer, session)

/-- Gets a document. A failed response with a recoverable error ends the call at once. -/
def get (path : String) (session : Session) : Except RemoteError Fetched × Session :=
  match session.client.scopedUrl path with
  | .error error => (.error (.configuration error), session)
  | .ok url =>
    match run url .get (recoverable? session.client.patterns) session with
    | (.error error, session) => (.error error, session)
    | (.ok (.document response), session) => (.ok (.document response), session)
    | (.ok (.intercepted hit), session) =>
      (.ok (.recoverable hit), session.report .recoverableMatched)

/-- Gets whatever stands at an address of any host; failed responses are returned as they are. -/
def getUserUrl (path : String) (session : Session) : Except RemoteError Response × Session :=
  match run (session.client.urlFor path) .get some session with
  | (.error error, session) => (.error error, session)
  | (.ok (.document response), session) => (.ok response, session)
  | (.ok (.intercepted response), session) =>
    (.ok response, session.report .errorDocumentReturned)

/-- A call that intercepts nothing. -/
def interceptNothing (_ : Response) : Option Empty := none

/-- Posts a JSON body. -/
def post (path : String) (body : Json) (session : Session) :
    Except RemoteError Response × Session :=
  match session.client.scopedUrl path with
  | .error error => (.error (.configuration error), session)
  | .ok url =>
    match run url (.post body) interceptNothing session with
    | (.error error, session) => (.error error, session)
    | (.ok (.document response), session) => (.ok response, session)

/-- The path with a query string appended, behind what it already has. -/
def withQuery (path query : String) : String :=
  if query = "" then path
  else if path.toList.contains '?' then path ++ "&" ++ query
  else path ++ "?" ++ query

/-- Parameters as a flat JSON object of texts; of several with one name the last one stays. -/
def queryBody (query : String) : Json :=
  .object (Json.sortMembers ((Form.decodeQuery query).map fun (name, value) ↦
    (name, .string value)))

/-- Whether a path may be sent as a GET request; what is found about the path is reported. -/
def allowsGet (path : String) (session : Session) : Bool × Session :=
  (session.client.allowsGet path, session.reportAll (judgePath path).events)

/-- Sends parameters in the address of a GET request if that is allowed, else as the body of a POST
request. -/
def fetchByQuery (path : String) (parameters : Form.Parameters) (session : Session) :
    Except RemoteError Fetched × Session :=
  match Form.encodeQuery parameters with
  | .error reason => (.error (.other ⟨reason.message, []⟩), session)
  | .ok query =>
    let candidate := withQuery path query
    match session.allowsGet candidate with
    | (true, session) => session.get candidate
    | (false, session) =>
      match (session.report .queryFallsBackToPost).post path (queryBody query) with
      | (.error error, session) => (.error error, session)
      | (.ok response, session) => (.ok (.document response), session)

/-- The primary data of a successful response. -/
def handleResponse (response : Response) (session : Session) :
    Except ServiceError (Option PrimaryData) × Session :=
  if response.isSuccess then (.ok response.document.data, session)
  else fail (session.client.responseError session.client.baseUri response) session

end Session

end ResourceLookup
