import ResourceLookup.Proofs.NetworkCall

/-!
# Runs of operations

What a caller can do with a client, as one type (`Operation`), and runs of it
(`Session.performAll`). Only some operations use the network, and each of them does so by a single
network call (`Operation.networkCall?`): sending parameters is getting or posting, whichever the
path allows. `Operation.course` says what an operation does apart from that call: it reports events
and may replace the patterns of recoverable errors. What every operation preserves is thus proved
for reports, for the patterns and for network calls.
-/

set_option autoImplicit false
set_option relaxedAutoImplicit false

namespace ResourceLookup

open Session

/-- What a caller can do with a client. -/
inductive Operation where
  | network (call : NetworkCall)
  | fetchByQuery (path : String) (parameters : Form.Parameters)
  | handleResponse (response : Response)
  | allowsGet (path : String)
  | urlFor (path : String)
  | setPatterns (patterns : List String)

/-- A call passes the checks that come before anything is loaded or sent: its target is admitted and
there is a transport. -/
structure NetworkCall.PassesChecks (call : NetworkCall) (client : Client) : Prop where
  admitted : ∃ url, call.target client = .ok url
  connected : client.transport.isSome = true

namespace Operation

/-- The session after an operation. -/
def perform (operation : Operation) (session : Session) : Session :=
  match operation with
  | .network call => (call.perform session).2
  | .fetchByQuery path parameters => (session.fetchByQuery path parameters).2
  | .handleResponse response => (session.handleResponse response).2
  | .allowsGet path => (session.allowsGet path).2
  | .urlFor _ => session
  | .setPatterns patterns => { session with client := session.client.setPatterns patterns }

/-- The network call that an operation makes, if it makes one. -/
def networkCall? (operation : Operation) (client : Client) : Option NetworkCall :=
  match operation with
  | .network call => some call
  | .fetchByQuery path parameters =>
    match Form.encodeQuery parameters with
    | .error _ => none
    | .ok query =>
      if client.allowsGet (withQuery path query) then some (.get (withQuery path query))
      else some (.post path (queryBody query))
  | .handleResponse _ | .allowsGet _ | .urlFor _ | .setPatterns _ => none

/-- An operation makes a network call that passes its checks. -/
def PassesChecks (operation : Operation) (client : Client) : Prop :=
  ∃ call, operation.networkCall? client = some call ∧ call.PassesChecks client

/-- What an operation does: it reports events and replaces the patterns at most, or it reports
events and makes its network call. -/
inductive Course (operation : Operation) (session : Session) : Session → Prop where
  | quiet (events : List Event) (patterns : List String)
      (hcall : operation.networkCall? session.client = none) :
      Course operation session
        { session.reportAll events with client := session.client.setPatterns patterns }
  | calling (call : NetworkCall) (events : List Event)
      (hcall : operation.networkCall? session.client = some call) :
      Course operation session (call.perform (session.reportAll events)).2

variable {operation : Operation} {session : Session}

/-- An operation that makes no network call may only report events. -/
theorem Course.reporting (events : List Event)
    (hcall : operation.networkCall? session.client = none) :
    operation.Course session (session.reportAll events) :=
  .quiet events session.client.patterns hcall

/-- An operation that makes no network call may do nothing. -/
theorem Course.idle (hcall : operation.networkCall? session.client = none) :
    operation.Course session session := by
  have hreporting := Course.reporting [] hcall
  rw [reportAll_nil] at hreporting
  exact hreporting

/-- Judging a response reports the failure, if it is one. -/
theorem handleResponse_session (session : Session) (response : Response) :
    ∃ events, (session.handleResponse response).2 = session.reportAll events := by
  rw [Session.handleResponse]
  by_cases hsuccess : response.isSuccess = true
  · rw [if_pos hsuccess]
    exact ⟨[], (reportAll_nil session).symm⟩
  · rw [if_neg hsuccess]
    exact ⟨[_], rfl⟩

/-- Sending parameters that cannot be written fails and does nothing. -/
theorem fetchByQuery_of_encodeQuery_error {path : String} {parameters : Form.Parameters}
    {reason : Form.Unsupported} (hquery : Form.encodeQuery parameters = .error reason) :
    session.fetchByQuery path parameters = (.error (.other ⟨reason.message, []⟩), session) := by
  rw [Session.fetchByQuery, hquery]

/-- Sending parameters is a GET request where that is allowed, behind what is found about the
path. -/
theorem fetchByQuery_eq_get {path query : String} {parameters : Form.Parameters}
    (hquery : Form.encodeQuery parameters = .ok query)
    (hallows : session.client.allowsGet (withQuery path query) = true) :
    session.fetchByQuery path parameters =
      (NetworkCall.get (withQuery path query)).perform
        (session.reportAll (judgePath (withQuery path query)).events) := by
  rw [Session.fetchByQuery, hquery]
  simp only [Session.allowsGet, hallows]
  rfl

/-- Sending parameters is a POST request where a GET request is not allowed, behind what is found
about the path and the report of that. -/
theorem fetchByQuery_eq_post {path query : String} {parameters : Form.Parameters}
    (hquery : Form.encodeQuery parameters = .ok query)
    (hallows : session.client.allowsGet (withQuery path query) = false) :
    session.fetchByQuery path parameters =
      (NetworkCall.post path (queryBody query)).perform
        (session.reportAll
          ((judgePath (withQuery path query)).events ++ [.queryFallsBackToPost])) := by
  have hreports : session.reportAll
        ((judgePath (withQuery path query)).events ++ [.queryFallsBackToPost]) =
      (session.reportAll (judgePath (withQuery path query)).events).report
        .queryFallsBackToPost := by
    simp only [reportAll, report, record, List.map_append, List.map_cons, List.map_nil,
      List.append_assoc]
  rw [hreports, Session.fetchByQuery, hquery]
  simp only [Session.allowsGet, hallows, NetworkCall.perform]
  rcases ((session.reportAll (judgePath (withQuery path query)).events).report
    .queryFallsBackToPost).post path (queryBody query) with ⟨_ | _, after⟩ <;> rfl

theorem fetchByQuery_of_allowsGet {path query : String} {parameters : Form.Parameters}
    (hquery : Form.encodeQuery parameters = .ok query)
    (hallows : session.client.allowsGet (withQuery path query) = true) :
    ∃ events, session.fetchByQuery path parameters =
      (NetworkCall.get (withQuery path query)).perform (session.reportAll events) :=
  ⟨_, fetchByQuery_eq_get hquery hallows⟩

theorem fetchByQuery_of_not_allowsGet {path query : String} {parameters : Form.Parameters}
    (hquery : Form.encodeQuery parameters = .ok query)
    (hallows : session.client.allowsGet (withQuery path query) = false) :
    ∃ events, session.fetchByQuery path parameters =
      (NetworkCall.post path (queryBody query)).perform (session.reportAll events) :=
  ⟨_, fetchByQuery_eq_post hquery hallows⟩

/-- An operation does one of the two. -/
theorem course (operation : Operation) (session : Session) :
    operation.Course session (operation.perform session) := by
  cases operation with
  | network call =>
    have hcalling : Course (.network call) session (call.perform (session.reportAll [])).2 :=
      .calling call [] rfl
    rw [reportAll_nil] at hcalling
    exact hcalling
  | fetchByQuery path parameters =>
    rw [perform]
    cases hquery : Form.encodeQuery parameters with
    | error reason =>
      rw [fetchByQuery_of_encodeQuery_error hquery]
      exact .idle (by rw [networkCall?, hquery])
    | ok query =>
      cases hallows : session.client.allowsGet (withQuery path query) with
      | true =>
        rw [fetchByQuery_eq_get hquery hallows]
        refine .calling _ _ ?_
        simp only [networkCall?, hquery, hallows, if_true]
      | false =>
        rw [fetchByQuery_eq_post hquery hallows]
        refine .calling _ _ ?_
        simp only [networkCall?, hquery, hallows]
        rfl
  | handleResponse response =>
    obtain ⟨events, hevents⟩ := handleResponse_session session response
    rw [perform, hevents]
    exact .reporting events rfl
  | allowsGet path => exact .reporting (judgePath path).events rfl
  | urlFor path => exact .idle rfl
  | setPatterns patterns =>
    have hquiet : Course (.setPatterns patterns) session
        { session.reportAll [] with client := session.client.setPatterns patterns } :=
      .quiet [] patterns rfl
    rw [reportAll_nil] at hquiet
    exact hquiet

end Operation

/-- The session after operations in turn. -/
def Session.performAll (operations : List Operation) (session : Session) : Session :=
  operations.foldl (fun session operation ↦ operation.perform session) session

end ResourceLookup
