import ResourceLookup.Client.Call

/-!
# What a trace shows

The views of a trace (`Session.requestsIn`, `Session.pausesIn`, `Session.tokenQuestionsIn`)
distribute over concatenation, and each thing that a session does appends to its trace without
touching its client. With these lemmas a later proof never opens a view or an operation that only
records. `Session.wireIn` is one view more: the requests and the pauses in the order in which they
alternate.

A request is announced, if announcements are configured, and then sent. `Session.attempted` is the
session after that, and `Session.attempt_eq` says that an attempt ends there and judges the answer
of the transport to the requests sent before.
-/

set_option autoImplicit false
set_option relaxedAutoImplicit false

namespace ResourceLookup

/-- Whether an activity is a request or a pause between two. -/
def Activity.isOnWire : Activity → Bool
  | .sent _ | .slept _ => true
  | .event _ | .tokenAsked | .resolverAsked _ | .fetched _ => false

namespace Session

/-- The requests and pauses in a trace, in order. -/
def wireIn (trace : List Activity) : List Activity :=
  trace.filter Activity.isOnWire

/-! ### Views of a concatenation -/

section Views

variable (first second : List Activity)

@[simp] theorem requestsIn_append :
    requestsIn (first ++ second) = requestsIn first ++ requestsIn second :=
  List.filterMap_append

@[simp] theorem pausesIn_append :
    pausesIn (first ++ second) = pausesIn first ++ pausesIn second :=
  List.filterMap_append

@[simp] theorem tokenQuestionsIn_append :
    tokenQuestionsIn (first ++ second) = tokenQuestionsIn first + tokenQuestionsIn second :=
  List.countP_append

@[simp] theorem wireIn_append : wireIn (first ++ second) = wireIn first ++ wireIn second :=
  List.filter_append first second

end Views

/-- The requests of a trace are on the wire. -/
theorem requestsIn_wireIn (trace : List Activity) :
    requestsIn (wireIn trace) = requestsIn trace := by
  induction trace with
  | nil => rfl
  | cons activity rest ih =>
    cases activity with
    | sent request => exact congrArg (request :: ·) ih
    | _ => exact ih

/-- The pauses of a trace are on the wire. -/
theorem pausesIn_wireIn (trace : List Activity) : pausesIn (wireIn trace) = pausesIn trace := by
  induction trace with
  | nil => rfl
  | cons activity rest ih =>
    cases activity with
    | slept pause => exact congrArg (pause :: ·) ih
    | _ => exact ih

/-- Reporting events puts nothing on the wire. -/
@[simp] theorem wireIn_map_event (events : List Event) : wireIn (events.map .event) = [] := by
  induction events with
  | nil => rfl
  | cons event rest ih => exact ih

/-- Reporting events sends no request. -/
@[simp] theorem requestsIn_map_event (events : List Event) :
    requestsIn (events.map .event) = [] := by
  rw [← requestsIn_wireIn, wireIn_map_event]
  rfl

/-- Reporting events asks for no token. -/
@[simp] theorem tokenQuestionsIn_map_event (events : List Event) :
    tokenQuestionsIn (events.map .event) = 0 := by
  simp [tokenQuestionsIn]

/-! ### Operations that only record -/

section Recording

variable (session : Session)

@[simp] theorem record_client (activity : Activity) :
    (session.record activity).client = session.client := rfl

@[simp] theorem record_trace (activity : Activity) :
    (session.record activity).trace = session.trace ++ [activity] := rfl

@[simp] theorem report_client (event : Event) :
    (session.report event).client = session.client := rfl

@[simp] theorem report_trace (event : Event) :
    (session.report event).trace = session.trace ++ [.event event] := rfl

@[simp] theorem reportAll_client (events : List Event) :
    (session.reportAll events).client = session.client := rfl

@[simp] theorem reportAll_trace (events : List Event) :
    (session.reportAll events).trace = session.trace ++ events.map .event := rfl

@[simp] theorem reportAll_nil : session.reportAll [] = session := by
  simp only [reportAll, List.map_nil, List.append_nil]

@[simp] theorem reportAll_singleton (event : Event) :
    session.reportAll [event] = session.report event := rfl

/-- The client of a session given by its parts. -/
theorem client_mk (client : Client) (now : Nat) (trace : List Activity) :
    (Session.mk client now trace).client = client := rfl

-- A bare `rfl` would have the clocks of the two sessions compared before their clients, and clock
-- arithmetic does not evaluate on variables.
@[simp] theorem sleep_client (pause : Duration) :
    (session.sleep pause).client = session.client :=
  client_mk session.client _ _

@[simp] theorem sleep_trace (pause : Duration) :
    (session.sleep pause).trace = session.trace ++ [.slept pause] := rfl

/-! ### One attempt -/

/-- What is reported about a request before it is sent. -/
def announcement (client : Client) : List Activity :=
  if client.settings.logRequests then [.event .requestSent] else []

/-- The session after a request was announced and sent. -/
def attempted (request : Request) (session : Session) : Session :=
  session.announce.record (.sent request)

@[simp] theorem announce_client : session.announce.client = session.client := by
  unfold announce
  split <;> rfl

@[simp] theorem announce_trace :
    session.announce.trace = session.trace ++ announcement session.client := by
  unfold announce announcement
  split <;> simp

@[simp] theorem wireIn_announcement (client : Client) : wireIn (announcement client) = [] := by
  unfold announcement
  split <;> rfl

@[simp] theorem requestsIn_announcement (client : Client) :
    requestsIn (announcement client) = [] := by
  unfold announcement
  split <;> rfl

@[simp] theorem pausesIn_announcement (client : Client) :
    pausesIn (announcement client) = [] := by
  unfold announcement
  split <;> rfl

@[simp] theorem attempted_client (request : Request) :
    (session.attempted request).client = session.client := by
  simp only [attempted, record_client, announce_client]

@[simp] theorem attempted_trace (request : Request) :
    (session.attempted request).trace =
      session.trace ++ (announcement session.client ++ [.sent request]) := by
  simp only [attempted, record_trace, announce_trace, List.append_assoc]

/-- An attempt sends its request and judges what the transport answers after the requests sent
before. -/
theorem attempt_eq {α : Type} (transport : Transport) (request : Request)
    (intercept : Response → Option α) :
    attempt transport request intercept session =
      (session.client.judge request.url intercept (transport (requestsIn session.trace) request),
        session.attempted request) := by
  simp only [attempt, send, attempted, record_client, announce_client, announce_trace,
    requestsIn_append, requestsIn_announcement, List.append_nil]

end Recording

end Session

end ResourceLookup
