import ResourceLookup.Proofs.Operations

/-!
# What a call reports

Five events tell how a call goes: that its request is repeated, that it was rejected or failed, that
its error is recoverable, and that it returns a failed response (`Event.tellsOfCall`). Whatever else
a session reports, `Session.Tells` says which of these come to its trace on the way from one session
to another, and composes along the way (`Session.Tells.trans`): loading headers adds none
(`Session.Loading.tells`), each repetition of a request adds one, and the end of a call adds what
its result says (`NetworkCall.closingFor_eq`).

`Operation.perform_reports_once` is what an observer of the events can rely on. Each failure of the
service is reported once, as a rejection or as a failure, and nothing else is reported as one.
-/

set_option autoImplicit false
set_option relaxedAutoImplicit false

namespace ResourceLookup

open Session

/-- Whether an event tells how a call goes. -/
def Event.tellsOfCall : Event → Bool
  | .retrying | .callRejected | .callFailed | .recoverableMatched | .errorDocumentReturned => true
  | _ => false

/-! ### Building headers -/

namespace OutboundHeaders

/-- Steps that do not tell how a call goes. -/
def Quiet (steps : List HeaderStep) : Prop :=
  ∀ event, .event event ∈ steps → event.tellsOfCall = false

theorem Quiet.concat {steps : List HeaderStep} (hsteps : Quiet steps) {step : HeaderStep}
    (hstep : ∀ event, step = .event event → event.tellsOfCall = false) :
    Quiet (steps ++ [step]) := by
  intro event hevent
  rcases List.mem_append.mp hevent with hbefore | hlast
  · exact hsteps event hbefore
  · exact hstep event (List.mem_singleton.mp hlast).symm

variable {draft : Draft} (context : RequestContext)

theorem Quiet.report (hdraft : Quiet draft.steps) {reported : Event}
    (hreported : reported.tellsOfCall = false) : Quiet (draft.report reported).steps :=
  hdraft.concat fun _ hevent ↦ HeaderStep.event.inj hevent ▸ hreported

theorem Quiet.insertText (hdraft : Quiet draft.steps) (name : HeaderName) (text : String) :
    Quiet (draft.insertText name text).steps := by
  unfold Draft.insertText
  split
  · exact hdraft
  · exact hdraft.report rfl

theorem Quiet.withIdentifiers (hdraft : Quiet draft.steps) :
    Quiet (draft.withIdentifiers context).steps := by
  unfold Draft.withIdentifiers
  dsimp only
  cases context.requestId? with
  | none =>
    cases context.traceId? with
    | none => exact hdraft
    | some trace => exact (hdraft.insertText _ _).insertText _ _
  | some id =>
    have hrequest := hdraft.insertText .requestId id
    cases context.traceId? with
    | none => exact hrequest
    | some trace => exact (hrequest.insertText _ _).insertText _ _

theorem Quiet.withPassthrough (hdraft : Quiet draft.steps) (texts : List String) :
    Quiet (draft.withPassthrough context texts).2.steps := by
  induction texts generalizing draft with
  | nil => exact hdraft
  | cons text rest ih =>
    rw [Draft.withPassthrough_cons]
    split
    · exact hdraft
    · split
      · exact ih (hdraft.report rfl)
      · split
        · exact ih (hdraft.insertText _ _)
        · exact ih hdraft

theorem Quiet.resolve (hdraft : Quiet draft.steps) (asked : Nat) (name : HeaderName)
    (resolverName : String) (resolver : Resolver) :
    Quiet (draft.resolve context asked name resolverName resolver).steps := by
  have hasked : Quiet (draft.steps ++ [.asked resolverName]) := hdraft.concat nofun
  unfold Draft.resolve
  dsimp only
  split
  · exact @Quiet.insertText { draft with steps := _ } hasked _ _
  · exact hasked

theorem Quiet.withContextual (hdraft : Quiet draft.steps) (registry : ResolverRegistry)
    (asked : Nat) (contextual : List (String × String)) :
    Quiet (draft.withContextual context registry asked contextual).2.steps := by
  induction contextual generalizing draft with
  | nil => exact hdraft
  | cons entry rest ih =>
    obtain ⟨text, resolverName⟩ := entry
    rw [Draft.withContextual_cons]
    split
    · exact hdraft
    · split
      · exact ih (hdraft.report rfl)
      · split
        · exact ih (hdraft.insertText _ _)
        · split
          · exact ih (hdraft.report rfl)
          · exact ih (hdraft.resolve context asked _ resolverName _)

/-- Building headers does not tell how a call goes. -/
theorem quiet_build (token : String) (context : RequestContext) (rules : HeaderRules)
    (registry : ResolverRegistry) (asked : Nat) :
    Quiet (build token context rules registry asked).2 := by
  unfold build
  cases bearerValue? token with
  | none => exact nofun
  | some bearer =>
    have hstart : Quiet (Draft.mk (fixedHeaders bearer) []).steps := nofun
    have hpassed := (hstart.withIdentifiers context).withPassthrough context rules.passthrough
    dsimp only
    generalize Draft.withPassthrough context _ rules.passthrough = passing at hpassed ⊢
    rcases passing with ⟨invalid | ⟨⟩, passed⟩
    · exact hpassed
    · have hresolved := @Quiet.withContextual passed context hpassed registry asked
        rules.contextual
      dsimp only
      generalize Draft.withContextual context registry asked passed rules.contextual = resolving
        at hresolved ⊢
      rcases resolving with ⟨invalid | ⟨⟩, resolved⟩
      · exact hresolved
      · exact hresolved

end OutboundHeaders

/-! ### What a session tells -/

namespace Session

/-- On the way from the first session to the second, the events that tell how a call goes are the
given ones. -/
def Tells (before after : Session) (told : List Event) : Prop :=
  ∃ reported, eventsIn after.trace = eventsIn before.trace ++ reported ∧
    reported.filter Event.tellsOfCall = told

theorem eventsIn_append (first second : List Activity) :
    eventsIn (first ++ second) = eventsIn first ++ eventsIn second :=
  List.filterMap_append

theorem eventsIn_map_event (events : List Event) : eventsIn (events.map .event) = events := by
  induction events with
  | nil => rfl
  | cons event rest ih => exact congrArg (event :: ·) ih

variable {before between after session loaded holder : Session} {told : List Event}

namespace Tells

theorem of_trace (activities : List Activity)
    (htrace : after.trace = before.trace ++ activities) :
    Tells before after ((eventsIn activities).filter Event.tellsOfCall) :=
  ⟨eventsIn activities, by rw [htrace, eventsIn_append], rfl⟩

theorem refl (session : Session) : Tells session session [] :=
  of_trace [] (List.append_nil _).symm

theorem trans {first second : List Event} (hfirst : Tells before between first)
    (hsecond : Tells between after second) : Tells before after (first ++ second) := by
  obtain ⟨reported, hevents, rfl⟩ := hfirst
  obtain ⟨more, hmore, rfl⟩ := hsecond
  refine ⟨reported ++ more, ?_, List.filter_append reported more⟩
  rw [hmore, hevents, List.append_assoc]

theorem reportAll (session : Session) (events : List Event) :
    Tells session (session.reportAll events) (events.filter Event.tellsOfCall) := by
  have hreported := of_trace _ (reportAll_trace session events)
  rw [eventsIn_map_event] at hreported
  exact hreported

end Tells

/-! ### Loading headers -/

theorem Holding.tells {token : Secret} (hholding : Holding session token holder) :
    Tells session holder [] := by
  cases hholding with
  | held htoken => exact .refl session
  | fetched htoken hgives => exact .of_trace [.tokenAsked] rfl

theorem tells_recordSteps {steps : List HeaderStep} (hquiet : OutboundHeaders.Quiet steps) :
    Tells holder (holder.recordSteps steps) [] := by
  have hsilent : (eventsIn (steps.map activityOfStep)).filter Event.tellsOfCall = [] := by
    rw [List.filter_eq_nil_iff]
    intro event hevent
    obtain ⟨activity, hactivity, hsame⟩ := List.mem_filterMap.mp hevent
    obtain ⟨step, hstep, rfl⟩ := List.mem_map.mp hactivity
    cases step with
    | event reported =>
      obtain rfl : reported = event := Option.some.inj hsame
      rw [hquiet reported hstep]
      exact Bool.false_ne_true
    | asked resolver => cases hsame
  rw [← hsilent]
  exact .of_trace _ rfl

theorem quiet_of_headerBuild {token : Secret} {result : Except InvalidHeader HeaderMap}
    {steps : List HeaderStep} (hbuild : holder.headerBuild token = (result, steps)) :
    OutboundHeaders.Quiet steps := by
  have hquiet : OutboundHeaders.Quiet (holder.headerBuild token).2 :=
    OutboundHeaders.quiet_build _ _ _ _ _
  rw [hbuild] at hquiet
  exact hquiet

/-- Loading headers tells nothing of a call. -/
theorem Loading.tells {result : Except ConfigurationError HeaderMap}
    (hloading : Loading session result loaded) : Tells session loaded [] := by
  cases hloading with
  | kept headers hheaders => exact .refl session
  | refused error hheaders htoken hrefused => exact .of_trace [.tokenAsked] rfl
  | unbuilt token holder invalid steps hheaders hholding hbuild =>
    exact hholding.tells.trans (tells_recordSteps (quiet_of_headerBuild hbuild))
  | built token holder headers steps hheaders hholding hbuild =>
    exact (hholding.tells.trans (tells_recordSteps (quiet_of_headerBuild hbuild))).trans
      (.of_trace [.event .headersPrepared] rfl)

/-! ### Repetitions -/

theorem tells_attempted (request : Request) (session : Session) :
    Tells session (session.attempted request) [] := by
  have hsilent : (eventsIn (announcement session.client ++ [.sent request])).filter
      Event.tellsOfCall = [] := by
    unfold announcement
    split <;> rfl
  rw [← hsilent]
  exact .of_trace _ (attempted_trace session request)

theorem tells_repeated (request : Request) (number : Nat) (session : Session) :
    Tells session (session.repeated request number) [.retrying] := by
  have hround : (eventsIn (round session.client request (session.pauseBefore number))).filter
      Event.tellsOfCall = [.retrying] := by
    unfold round announcement
    split <;> rfl
  rw [← hround]
  exact .of_trace _ (repeated_trace request number session)

/-- Every repetition is told once. -/
theorem tells_repeatedTimes (request : Request) (number count : Nat) (session : Session) :
    Tells session (session.repeatedTimes request number count)
      (List.replicate count .retrying) := by
  induction count generalizing number session with
  | zero => exact .refl session
  | succ count ih =>
    exact (tells_repeated request number session).trans
      (ih (number + 1) (session.repeated request number))

end Session

/-! ### Calls -/

/-- The number of requests that were sent on the way from the first session to the second. -/
def Session.requestsSent (before after : Session) : Nat :=
  (requestsIn after.trace).length - (requestsIn before.trace).length

/-- What is told at the end of a call with the given result. Failed responses are returned for the
address of a user only. -/
def endingOf (forUser : Bool) : Except RemoteError Fetched → List Event
  | .error (.service error) => [error.event]
  | .error _ => []
  | .ok (.recoverable _) => [.recoverableMatched]
  | .ok (.document response) =>
    if forUser && !response.isSuccess then [.errorDocumentReturned] else []

namespace NetworkCall

/-- Whether a call asks for the address of a user. -/
def isForUser : NetworkCall → Bool
  | .getUserUrl _ => true
  | .get _ | .post _ _ => false

section Ending

variable (call : NetworkCall) (client : Client) (url : String)

/-- What a call reports at its end is what its result tells. -/
theorem closingFor_eq (outcome : Outcome) :
    call.closingFor client url outcome = endingOf call.isForUser
      (call.answerTo client url outcome) := by
  cases outcome with
  | error failure => rfl
  | ok response =>
    rw [closingFor, Client.closingFor, answerTo, Client.answerTo]
    by_cases hsuccess : response.isSuccess = true
    · simp [hsuccess, endingOf]
    · cases call with
      | get path =>
        rw [hit?]
        cases recoverable? client.patterns response <;> simp [hsuccess, endingOf, onHit]
      | getUserUrl path => simp [hsuccess, hit?, endingOf, onHit, isForUser]
      | post path body => simp [hsuccess, hit?, endingOf]

theorem filter_endingOf (forUser : Bool) (result : Except RemoteError Fetched) :
    (endingOf forUser result).filter Event.tellsOfCall = endingOf forUser result := by
  unfold endingOf
  split
  · next error =>
    rw [ServiceError.event]
    split <;> rfl
  · rfl
  · rfl
  · split <;> rfl

/-- Repetitions tell of themselves, and the end of a call of its result. -/
theorem tells_ended (transport : Transport) (request : Request) (loaded : Session) (count : Nat) :
    Tells loaded (call.ended client transport request loaded count)
      (List.replicate count .retrying ++ endingOf call.isForUser
        (call.answerTo client request.url (nextOutcome transport request loaded count))) := by
  have hend := Tells.reportAll ((loaded.repeatedTimes request 0 count).attempted request)
    (call.closingFor client request.url (nextOutcome transport request loaded count))
  rw [closingFor_eq, filter_endingOf, ← closingFor_eq] at hend
  rw [← List.append_nil (List.replicate count _), ← closingFor_eq]
  exact ((tells_repeatedTimes request 0 count loaded).trans (tells_attempted request _)).trans hend

end Ending

/-- A call tells of every request but the first that it is repeated, and at its end of its
result. -/
theorem tells_perform (call : NetworkCall) (session : Session) :
    Tells session (call.perform session).2
      (List.replicate (requestsSent session (call.perform session).2 - 1) .retrying ++
        endingOf call.isForUser (call.perform session).1) := by
  have hcourse := call.course session
  generalize (call.perform session).1 = result at hcourse
  generalize (call.perform session).2 = after at hcourse
  cases hcourse with
  | astray error htarget =>
    rw [requestsSent, Nat.sub_self]
    exact .refl session
  | disconnected url htarget htransport =>
    rw [requestsSent, Nat.sub_self]
    exact .refl session
  | unloaded url transport error loaded htarget htransport hheaders =>
    rw [requestsSent, (loading_of_eq hheaders).requestsIn, Nat.sub_self]
    exact (loading_of_eq hheaders).tells
  | exchanged url transport headers loaded count htarget htransport hheaders hstops =>
    have hsent : requestsSent session (call.ended session.client transport
        ⟨call.method, url, headers⟩ loaded count) - 1 = count := by
      rw [requestsSent, requestsIn_ended, (loading_of_eq hheaders).requestsIn, List.length_append,
        List.length_replicate]
      omega
    rw [hsent]
    exact (loading_of_eq hheaders).tells.trans (call.tells_ended session.client transport _ loaded
      count)

end NetworkCall

/-! ### Operations -/

namespace Operation

/-- How an operation ends that can end in a failure of the service. The primary data that judging a
response gives is nothing that was fetched. -/
def result? (operation : Operation) (session : Session) : Option (Except RemoteError Fetched) :=
  match operation with
  | .network call => some (call.perform session).1
  | .fetchByQuery path parameters => some (session.fetchByQuery path parameters).1
  | .handleResponse response =>
    match (session.handleResponse response).1 with
    | .error error => some (.error (.service error))
    | .ok _ => none
  | .allowsGet _ | .urlFor _ | .setPatterns _ => none

/-- Whether an operation asks for the address of a user. -/
def isForUser : Operation → Bool
  | .network call => call.isForUser
  | _ => false

/-- What an operation tells at its end. -/
def ending (operation : Operation) (session : Session) : List Event :=
  match operation.result? session with
  | some result => endingOf operation.isForUser result
  | none => []

theorem filter_events_judgePath (path : String) :
    (judgePath path).events.filter Event.tellsOfCall = [] := by
  cases judgePath path <;> rfl

/-- An operation tells what a network call tells behind events that tell nothing. -/
theorem tells_behind {operation : Operation} {session : Session} {call : NetworkCall}
    (events : List Event) (hquiet : events.filter Event.tellsOfCall = [])
    (hafter : operation.perform session = (call.perform (session.reportAll events)).2)
    (hresult : operation.result? session = some (call.perform (session.reportAll events)).1)
    (huser : operation.isForUser = call.isForUser) :
    Tells session (operation.perform session)
      (List.replicate (requestsSent session (operation.perform session) - 1) .retrying ++
        operation.ending session) := by
  have hbefore := Tells.reportAll session events
  rw [hquiet] at hbefore
  have hsent : requestsSent session (operation.perform session) =
      requestsSent (session.reportAll events) (call.perform (session.reportAll events)).2 := by
    rw [hafter, requestsSent, requestsSent, reportAll_trace, requestsIn_append,
      requestsIn_map_event, List.append_nil]
  rw [hsent, ending, hresult, hafter, huser]
  exact hbefore.trans (call.tells_perform _)

/-- An operation that sends nothing and ends with the given events tells them. -/
theorem tells_alone {operation : Operation} {session : Session} (events : List Event)
    (hafter : operation.perform session = session.reportAll events)
    (hending : operation.ending session = events.filter Event.tellsOfCall) :
    Tells session (operation.perform session)
      (List.replicate (requestsSent session (operation.perform session) - 1) .retrying ++
        operation.ending session) := by
  have hsent : requestsSent session (operation.perform session) = 0 := by
    rw [hafter, requestsSent, reportAll_trace, requestsIn_append, requestsIn_map_event,
      List.append_nil, Nat.sub_self]
  rw [hsent, hending, hafter]
  exact .reportAll session events

/-- An operation tells of every request but the first that it is repeated, and at its end of its
result. -/
theorem tells_perform (operation : Operation) (session : Session) :
    Tells session (operation.perform session)
      (List.replicate (requestsSent session (operation.perform session) - 1) .retrying ++
        operation.ending session) := by
  cases operation with
  | network call =>
    refine tells_behind [] rfl ?_ ?_ rfl
    · rw [reportAll_nil]
      rfl
    · rw [reportAll_nil]
      rfl
  | fetchByQuery path parameters =>
    cases hquery : Form.encodeQuery parameters with
    | error reason =>
      refine tells_alone [] ?_ ?_
      · rw [perform, fetchByQuery_of_encodeQuery_error hquery, reportAll_nil]
      · rw [ending, result?, fetchByQuery_of_encodeQuery_error hquery]
        rfl
    | ok query =>
      cases hallows : session.client.allowsGet (withQuery path query) with
      | true =>
        have hget := fetchByQuery_eq_get hquery hallows
        exact tells_behind _ (filter_events_judgePath _) (congrArg Prod.snd hget)
          (congrArg some (congrArg Prod.fst hget)) rfl
      | false =>
        have hpost := fetchByQuery_eq_post hquery hallows
        refine tells_behind _ ?_ (congrArg Prod.snd hpost)
          (congrArg some (congrArg Prod.fst hpost)) rfl
        rw [List.filter_append, filter_events_judgePath]
        rfl
  | handleResponse response =>
    by_cases hsuccess : response.isSuccess = true
    · refine tells_alone [] ?_ ?_
      · rw [perform, Session.handleResponse, if_pos hsuccess, reportAll_nil]
      · rw [ending, result?, Session.handleResponse, if_pos hsuccess]
        rfl
    · refine tells_alone
        [(session.client.responseError session.client.baseUri response).event] ?_ ?_
      · rw [perform, Session.handleResponse, if_neg hsuccess]
        rfl
      · rw [ending, result?, Session.handleResponse, if_neg hsuccess]
        exact (NetworkCall.filter_endingOf false (.error (.service _))).symm
  | allowsGet path => exact tells_alone _ rfl (filter_events_judgePath path).symm
  | urlFor path => exact tells_alone [] (reportAll_nil session).symm rfl
  | setPatterns patterns =>
    have hsent : requestsSent session ((setPatterns patterns).perform session) = 0 :=
      Nat.sub_self _
    rw [hsent]
    exact .of_trace [] (List.append_nil _).symm

end Operation

/-! ### Each event once -/

theorem StatusCode.isClientError_iff {status : StatusCode} :
    status.isClientError = true ↔ 400 ≤ status.code ∧ status.code < 500 := by
  simp [isClientError]

section Once

variable {forUser : Bool} {result : Except RemoteError Fetched}

/-- A call tells at its end that it was rejected exactly if it failed with a client error. -/
theorem endingOf_eq_callRejected_iff :
    endingOf forUser result = [.callRejected] ↔
      ∃ error, result = .error (.service error) ∧ error.status.isClientError = true := by
  rcases result with error | fetched
  · cases error <;> simp [endingOf, ServiceError.event]
  · cases fetched with
    | document response =>
      rw [endingOf]
      split <;> simp
    | recoverable error => simp [endingOf]

theorem endingOf_eq_callFailed_iff :
    endingOf forUser result = [.callFailed] ↔
      ∃ error, result = .error (.service error) ∧ ¬ error.status.isClientError = true := by
  rcases result with error | fetched
  · cases error <;> simp [endingOf, ServiceError.event]
  · cases fetched with
    | document response =>
      rw [endingOf]
      split <;> simp
    | recoverable error => simp [endingOf]

theorem endingOf_eq_recoverableMatched_iff :
    endingOf forUser result = [.recoverableMatched] ↔
      ∃ error, result = .ok (.recoverable error) := by
  rcases result with error | fetched
  · cases error with
    | service error =>
      rw [endingOf, ServiceError.event]
      split <;> simp
    | _ => simp [endingOf]
  · cases fetched with
    | document response =>
      rw [endingOf]
      split <;> simp
    | recoverable error => simp [endingOf]

theorem endingOf_eq_errorDocumentReturned_iff :
    endingOf forUser result = [.errorDocumentReturned] ↔
      ∃ response, result = .ok (.document response) ∧ ¬ response.isSuccess = true ∧
        forUser = true := by
  rcases result with error | fetched
  · cases error with
    | service error =>
      rw [endingOf, ServiceError.event]
      split <;> simp
    | _ => simp [endingOf]
  · cases fetched <;> simp [endingOf, and_comm]

/-- At its end a call tells one thing at most, and no repetition. -/
theorem endingOf_cases (forUser : Bool) (result : Except RemoteError Fetched) :
    endingOf forUser result = [] ∨
      ∃ event, endingOf forUser result = [event] ∧ event ≠ .retrying := by
  unfold endingOf
  split
  · next error =>
    refine .inr ⟨_, rfl, ?_⟩
    rw [ServiceError.event]
    split <;> exact nofun
  · exact .inl rfl
  · exact .inr ⟨_, rfl, nofun⟩
  · split
    · exact .inr ⟨_, rfl, nofun⟩
    · exact .inl rfl

end Once

/-- An event is reported exactly once under a condition, and otherwise not at all. -/
def ReportedOnceIff (reported : List Event) (event : Event) (condition : Prop) : Prop :=
  (condition → reported.count event = 1) ∧ (¬ condition → reported.count event = 0)

namespace Operation

/-- At its end an operation tells one thing at most, and no repetition. -/
theorem ending_cases (operation : Operation) (session : Session) :
    operation.ending session = [] ∨
      ∃ event, operation.ending session = [event] ∧ event ≠ .retrying := by
  rw [ending]
  cases operation.result? session with
  | none => exact .inl rfl
  | some result => exact endingOf_cases operation.isForUser result

/-- An operation tells at its end what calls with its result tell. -/
theorem ending_eq_iff {operation : Operation} {session : Session} {event : Event} {α : Type}
    {result : α → Except RemoteError Fetched} {condition : α → Prop}
    (hending : ∀ other, endingOf operation.isForUser other = [event] ↔
      ∃ found, other = result found ∧ condition found) :
    operation.ending session = [event] ↔
      ∃ found, operation.result? session = some (result found) ∧ condition found := by
  rw [ending]
  cases operation.result? session with
  | none => simp
  | some other => simp only [hending, Option.some.injEq]

theorem isForUser_iff {operation : Operation} :
    operation.isForUser = true ↔ ∃ path, operation = .network (.getUserUrl path) := by
  rcases operation with call | _ | _ | _ | _ | _
  · cases call <;> simp [isForUser, NetworkCall.isForUser]
  all_goals simp [isForUser]

/-- What an operation tells at its end is reported once, if it is an event that tells how a call
goes and no repetition. -/
theorem reportedOnceIff {operation : Operation} {session : Session} {reported : List Event}
    {event : Event} {condition : Prop}
    (htold : reported.filter Event.tellsOfCall =
      List.replicate (requestsSent session (operation.perform session) - 1) .retrying ++
        operation.ending session)
    (hevent : event.tellsOfCall = true) (hother : event ≠ .retrying)
    (hending : operation.ending session = [event] ↔ condition) :
    ReportedOnceIff reported event condition := by
  have hcount : reported.count event = (operation.ending session).count event := by
    rw [← List.count_filter hevent, htold, List.count_append, List.count_replicate,
      if_neg fun hsame ↦ hother (beq_iff_eq.mp hsame).symm, Nat.zero_add]
  rw [ReportedOnceIff, ← hending, hcount]
  rcases operation.ending_cases session with hnone | ⟨only, honly, -⟩
  · simp [hnone]
  · simp [honly, List.count_singleton]

/-- What an operation sends comes behind what was sent before. -/
theorem exists_sent (operation : Operation) (session : Session) :
    ∃ sent, requestsIn (operation.perform session).trace = requestsIn session.trace ++ sent := by
  have hcourse := operation.course session
  generalize operation.perform session = after at hcourse
  cases hcourse with
  | quiet events patterns hcall =>
    refine ⟨[], ?_⟩
    rw [reportAll_trace, requestsIn_append, requestsIn_map_event]
  | calling call events hcall =>
    have hreported : requestsIn (session.reportAll events).trace = requestsIn session.trace := by
      rw [reportAll_trace, requestsIn_append, requestsIn_map_event, List.append_nil]
    rw [← hreported]
    rcases call.requestsIn_perform (session.reportAll events) with
      hnone | ⟨url, headers, count, -, hsent⟩
    · exact ⟨[], hnone.trans (List.append_nil _).symm⟩
    · exact ⟨_, hsent⟩

/-- Each failure of the service is reported once. While an operation is performed, a rejection is
reported exactly once if the operation ends in a failure of the service with a status of the four
hundreds, and a failure exactly once if it ends in one with another status; neither is reported
otherwise. A repetition is reported as often as requests are sent behind the first one. A
recoverable error is reported exactly once if the operation returns one, and an error document
exactly once if the operation asks for the address of a user and returns a response that is no
success. -/
theorem perform_reports_once (operation : Operation) (session : Session) :
    ∃ reported sent,
      eventsIn (operation.perform session).trace = eventsIn session.trace ++ reported ∧
      requestsIn (operation.perform session).trace = requestsIn session.trace ++ sent ∧
      ReportedOnceIff reported .callRejected
        (∃ error, operation.result? session = some (.error (.service error)) ∧
          400 ≤ error.status.code ∧ error.status.code < 500) ∧
      ReportedOnceIff reported .callFailed
        (∃ error, operation.result? session = some (.error (.service error)) ∧
          ¬ (400 ≤ error.status.code ∧ error.status.code < 500)) ∧
      reported.count .retrying = sent.length - 1 ∧
      ReportedOnceIff reported .recoverableMatched
        (∃ error, operation.result? session = some (.ok (.recoverable error))) ∧
      ReportedOnceIff reported .errorDocumentReturned
        (∃ response, operation.result? session = some (.ok (.document response)) ∧
          ¬ response.isSuccess = true ∧ ∃ path, operation = .network (.getUserUrl path)) := by
  obtain ⟨reported, hreported, htold⟩ := operation.tells_perform session
  obtain ⟨sent, hsent⟩ := operation.exists_sent session
  have hlength : requestsSent session (operation.perform session) = sent.length := by
    rw [requestsSent, hsent, List.length_append, Nat.add_sub_cancel_left]
  have hretrying : Event.retrying ∉ operation.ending session := by
    rcases operation.ending_cases session with hnone | ⟨only, honly, hother⟩
    · rw [hnone]
      exact List.not_mem_nil
    · rw [honly, List.mem_singleton]
      exact hother.symm
  refine ⟨reported, sent, hreported, hsent, ?_, ?_, ?_, ?_, ?_⟩
  · refine reportedOnceIff htold rfl nofun (ending_eq_iff fun result ↦ ?_)
    simp only [endingOf_eq_callRejected_iff, StatusCode.isClientError_iff]
  · refine reportedOnceIff htold rfl nofun (ending_eq_iff fun result ↦ ?_)
    simp only [endingOf_eq_callFailed_iff, StatusCode.isClientError_iff]
  · rw [← List.count_filter (by rfl : Event.retrying.tellsOfCall = true), htold,
      List.count_append, List.count_replicate_self, List.count_eq_zero.mpr hretrying, hlength,
      Nat.add_zero]
  · refine reportedOnceIff htold rfl nofun ?_
    have hending := @ending_eq_iff operation session .recoverableMatched _
      (fun error ↦ .ok (.recoverable error)) (fun _ ↦ True) fun result ↦ by
        simp only [endingOf_eq_recoverableMatched_iff, and_true]
    simpa only [and_true] using hending
  · refine reportedOnceIff htold rfl nofun (ending_eq_iff fun result ↦ ?_)
    simp only [endingOf_eq_errorDocumentReturned_iff, isForUser_iff]

end Operation

end ResourceLookup
