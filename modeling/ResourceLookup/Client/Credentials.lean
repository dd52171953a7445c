import ResourceLookup.Client.Basic

/-!
# Loading credentials

A client loads its token and its outbound headers on its first network operation and keeps both. The
token is kept as soon as it is found to be usable, so that the provider is never asked again even if
the headers cannot be built from it (`Session.ensureToken`, `Session.ensureHeaders`).
-/

set_option autoImplicit false
set_option relaxedAutoImplicit false

namespace ResourceLookup.Session

/-- The session with a token loaded. -/
def keepToken (session : Session) (token : Secret) : Session :=
  { session with client := { session.client with token := some token } }

/-- The session with outbound headers loaded. -/
def keepHeaders (session : Session) (headers : HeaderMap) : Session :=
  { session with client := { session.client with headers := some headers } }

/-- The token of the client: the loaded one, else what the provider gives, which has to be
usable. -/
def ensureToken (session : Session) : Except ConfigurationError Secret × Session :=
  match session.client.token with
  | some token => (.ok token, session)
  | none =>
    let answer := session.client.tokenProvider (tokenQuestionsIn session.trace)
    let session := session.record .tokenAsked
    match answer with
    | .error cause => (.error (.credentials session.client.service cause), session)
    | .ok token =>
      if token.isBlank then (.error (.invalidToken session.client.service), session)
      else (.ok token, session.keepToken token)

/-- What happened while headers were built, as activities. -/
def activityOfStep : HeaderStep → Activity
  | .event event => .event event
  | .asked resolver => .resolverAsked resolver

/-- The outbound headers built from a token. -/
def buildHeaders (session : Session) (token : Secret) :
    Except ConfigurationError HeaderMap × Session :=
  let client := session.client
  let (result, steps) := OutboundHeaders.build token.exposed client.context
    client.settings.headerRules client.resolvers (resolverQuestionsIn session.trace)
  let session := { session with trace := session.trace ++ steps.map activityOfStep }
  match result with
  | .error invalid => (.error (.invalidHeader invalid.name), session)
  | .ok headers => (.ok headers, (session.report .headersPrepared).keepHeaders headers)

/-- The outbound headers of the client: the loaded ones, else new ones from its token. -/
def ensureHeaders (session : Session) : Except ConfigurationError HeaderMap × Session :=
  match session.client.headers with
  | some headers => (.ok headers, session)
  | none =>
    match session.ensureToken with
    | (.error error, session) => (.error error, session)
    | (.ok token, session) => session.buildHeaders token

end ResourceLookup.Session
