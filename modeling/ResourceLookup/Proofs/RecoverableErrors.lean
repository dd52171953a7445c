import ResourceLookup.Proofs.NetworkCall

/-!
# Recoverable errors

A failed response is recoverable if one of its error details contains one of the client's patterns
that are not empty (`Response.IsRecoverable`). What is told of it is the first such pattern in their
order, all details, and a client error as its status (`RecoverableError.TellsOf`, which
`recoverable?_eq_some_iff` ties to the search).

The outcomes that a call consumes are what the transport answered to the requests that the call sent
(`NetworkCall.consumed`). A GET request brings a recoverable error exactly if the last of them is a
recoverable response, and it consumes nothing behind one. Apart from that it goes like a POST
request to the same path: on a script of outcomes without a recoverable response both send the same
number of requests and return the same (`NetworkCall.get_recovers_iff`).
-/

set_option autoImplicit false
set_option relaxedAutoImplicit false

namespace ResourceLookup

open Session

/-! ### Recoverable responses -/

namespace Response

/-- A pattern that is not empty occurs in one of the error details of a response. -/
def Mentions (response : Response) (pattern : String) : Prop :=
  pattern ≠ "" ∧
    ∃ detail ∈ response.document.errors.map ErrorObject.message, pattern.toList <:+: detail.toList

/-- A response is no success and mentions one of the patterns. -/
def IsRecoverable (patterns : List String) (response : Response) : Prop :=
  ¬ response.isSuccess = true ∧ ∃ pattern ∈ patterns, response.Mentions pattern

/-- A status is one of the four hundreds. -/
def IsClientError (response : Response) (status : Nat) : Prop :=
  response.rawStatus = some status ∧ 400 ≤ status ∧ status < 500

end Response

/-- A recoverable error tells of a response: the first pattern that the response mentions, the
details of all error objects in their order, and the status of the response if that is a client
error, else 400. -/
structure RecoverableError.TellsOf (patterns : List String) (response : Response)
    (error : RecoverableError) : Prop where
  mentioned : response.Mentions error.matchedPattern
  first : ∃ before behind, patterns = before ++ error.matchedPattern :: behind ∧
    ∀ pattern ∈ before, ¬ response.Mentions pattern
  details : error.details = response.document.errors.map ErrorObject.message
  isClientError : error.status.isClientError = true
  kept : ∀ status, response.IsClientError status → error.status.code = status
  replaced : (¬ ∃ status, response.IsClientError status) → error.status.code = 400

section Searching

variable {patterns : List String} {response : Response}

/-- The test by which patterns are searched. -/
theorem mentions_iff_test (response : Response) (pattern : String) :
    (decide (pattern ≠ "") && response.document.errorDetails.any fun detail ↦
        Text.contains detail pattern) = true ↔ response.Mentions pattern := by
  rw [Bool.and_eq_true, decide_eq_true_eq, List.any_eq_true, Response.Mentions,
    Document.errorDetails]
  refine and_congr_right fun _ ↦ exists_congr fun detail ↦ and_congr_right fun _ ↦ ?_
  rw [Text.contains, Text.occursIn_iff_isInfix]

/-- What is found is the first pattern that the response mentions. -/
theorem firstMatch?_eq_some_iff (pattern : String) :
    firstMatch? patterns response.document.errorDetails = some pattern ↔
      response.Mentions pattern ∧ ∃ before behind, patterns = before ++ pattern :: behind ∧
        ∀ earlier ∈ before, ¬ response.Mentions earlier := by
  rw [firstMatch?, List.find?_eq_some_iff_append, mentions_iff_test]
  refine and_congr_right fun _ ↦ exists_congr fun before ↦ exists_congr fun behind ↦
    and_congr_right fun _ ↦ forall₂_congr fun earlier _ ↦ ?_
  rw [← mentions_iff_test response earlier, Bool.not_eq_true', Bool.not_eq_true]

/-- Nothing is found exactly if no pattern is mentioned. -/
theorem firstMatch?_eq_none_iff :
    firstMatch? patterns response.document.errorDetails = none ↔
      ∀ pattern ∈ patterns, ¬ response.Mentions pattern := by
  rw [firstMatch?, List.find?_eq_none]
  exact forall₂_congr fun pattern _ ↦ not_congr (mentions_iff_test response pattern)

/-- The status that is told of a response with error objects. -/
theorem normalizeStatus_isClientError_iff :
    (normalizeStatus response.rawStatus true).isClientError = true ↔
      ∃ status, response.IsClientError status ∧
        (normalizeStatus response.rawStatus true).code = status := by
  simp only [Response.IsClientError]
  cases response.rawStatus with
  | none => simp [normalizeStatus, StatusCode.isClientError, StatusCode.badGateway]
  | some raw =>
    simp only [normalizeStatus, and_true]
    split
    · simp [StatusCode.isClientError, StatusCode.badGateway]
    · split
      · simp [StatusCode.isClientError]
      · simp [StatusCode.isClientError, StatusCode.badGateway]

/-- A failed response is taken for a recoverable error if it mentions a pattern, and the error tells
of it. -/
theorem tellsOf_of_recoverable? {error : RecoverableError}
    (hfound : recoverable? patterns response = some error) : error.TellsOf patterns response := by
  unfold recoverable? at hfound
  cases hmatch : firstMatch? patterns response.document.errorDetails with
  | none => simp [hmatch] at hfound
  | some pattern =>
    obtain ⟨hmentioned, hfirst⟩ := (firstMatch?_eq_some_iff pattern).mp hmatch
    simp only [hmatch, Option.some.injEq] at hfound
    obtain rfl := hfound
    by_cases hclient : (normalizeStatus response.rawStatus true).isClientError = true
    · obtain ⟨sent, hsent, hcode⟩ := normalizeStatus_isClientError_iff.mp hclient
      refine ⟨hmentioned, hfirst, rfl, ?_, fun status hstatus ↦ ?_, fun hnone ↦ ?_⟩
      · simp only [hclient, if_true]
      · simp only [hclient, if_true]
        rw [hcode]
        exact Option.some.inj (hsent.1.symm.trans hstatus.1)
      · exact absurd ⟨sent, hsent⟩ hnone
    · refine ⟨hmentioned, hfirst, rfl, ?_, fun status hstatus ↦ ?_, fun _ ↦ ?_⟩
      · simp only [hclient]
        rfl
      · refine absurd (normalizeStatus_isClientError_iff.mpr ⟨status, hstatus, ?_⟩) hclient
        obtain ⟨hraw, hlow, hhigh⟩ := hstatus
        rw [hraw, normalizeStatus, if_neg (by omega), dif_pos (by omega)]
      · simp only [hclient]
        rfl

/-- A response is taken for a recoverable error exactly if it mentions a pattern. -/
theorem recoverable?_isSome_iff :
    (recoverable? patterns response).isSome = true ↔
      ∃ pattern ∈ patterns, response.Mentions pattern := by
  unfold recoverable?
  cases hmatch : firstMatch? patterns response.document.errorDetails with
  | none =>
    have hnone := firstMatch?_eq_none_iff.mp hmatch
    simp only [hmatch, Option.isSome_none, Bool.false_eq_true, false_iff]
    rintro ⟨pattern, hpattern, hmentioned⟩
    exact hnone pattern hpattern hmentioned
  | some pattern =>
    obtain ⟨hmentioned, before, behind, hsplit, -⟩ := (firstMatch?_eq_some_iff pattern).mp hmatch
    simp only [hmatch, Option.isSome_some, true_iff]
    exact ⟨pattern, hsplit ▸ List.mem_append_right before List.mem_cons_self, hmentioned⟩

end Searching

/-! ### Consumed outcomes -/

/-- A loop stops in the same round if its test passes in the same rounds up to there. -/
theorem StopsAt.congr {test other : Nat → Bool} {left count : Nat}
    (hstops : StopsAt test left count) (hsame : ∀ i ≤ count, other i = test i) :
    StopsAt other left count where
  within := hstops.within
  before i hi := (hsame i (Nat.le_of_lt hi)).trans (hstops.before i hi)
  atEnd hlt := (hsame count (Nat.le_refl count)).trans (hstops.atEnd hlt)

/-- What a transport answers to requests that are sent behind the given ones, in order. -/
def answersIn (transport : Transport) (earlier : List Request) : List Request → List Outcome
  | [] => []
  | request :: rest =>
    transport earlier request :: answersIn transport (earlier ++ [request]) rest

theorem answersIn_replicate (transport : Transport) (earlier : List Request) (request : Request)
    (count : Nat) :
    answersIn transport earlier (List.replicate count request) =
      (List.range count).map fun i ↦ transport (earlier ++ List.replicate i request) request := by
  induction count generalizing earlier with
  | zero => rfl
  | succ count ih =>
    rw [List.replicate_succ, answersIn, ih, List.range_succ_eq_map, List.map_cons, List.map_map,
      List.replicate_zero, List.append_nil]
    simp only [Function.comp_def, List.append_assoc, List.singleton_append, List.replicate_succ]

/-- Gives the outcomes of a script in turn. -/
def Transport.scripted (script : Nat → Outcome) : Transport :=
  fun earlier _ ↦ script earlier.length

namespace NetworkCall

/-- The outcomes that a call consumes: what the transport answers to the requests of the call. -/
def consumed (call : NetworkCall) (session : Session) : List Outcome :=
  match session.client.transport with
  | none => []
  | some transport =>
    answersIn transport (requestsIn session.trace)
      ((requestsIn (call.perform session).2.trace).drop (requestsIn session.trace).length)

section Consuming

variable {call : NetworkCall} {session loaded : Session} {transport : Transport} {url : String}
  {headers : HeaderMap} {count : Nat}

/-- A call whose headers cannot be loaded ends there. -/
theorem perform_of_unloaded {error : ConfigurationError}
    (htransport : session.client.transport = some transport)
    (htarget : call.target session.client = .ok url)
    (hheaders : session.ensureHeaders = (.error error, loaded)) :
    call.perform session = (.error (.configuration error), loaded) := by
  obtain ⟨α, intercept, wrap, -, hperform⟩ := call.perform_eq_resume session htarget
  rw [hperform, run, htransport]
  simp only [hheaders]
  rfl

/-- A call that sends nothing consumes nothing. -/
theorem consumed_of_requestsIn_eq
    (hrequests : requestsIn (call.perform session).2.trace = requestsIn session.trace) :
    call.consumed session = [] := by
  unfold consumed
  cases session.client.transport with
  | none => rfl
  | some transport =>
    simp only [hrequests, List.drop_length]
    rfl

/-- A call that repeats its request so many times consumes one outcome more. -/
theorem consumed_of_loaded (htransport : session.client.transport = some transport)
    (htarget : call.target session.client = .ok url)
    (hheaders : session.ensureHeaders = (.ok headers, loaded))
    (hstops : StopsAt
      (fun i ↦ call.isRetryable session.client
        (nextOutcome transport ⟨call.method, url, headers⟩ loaded i))
      session.client.settings.retry.retries count) :
    call.consumed session =
      (List.range (count + 1)).map (nextOutcome transport ⟨call.method, url, headers⟩ loaded) := by
  have hrequests : requestsIn loaded.trace = requestsIn session.trace :=
    (loading_of_eq hheaders).requestsIn
  rw [consumed, htransport, call.perform_of_loaded htransport htarget hheaders hstops]
  simp only [requestsIn_ended, hrequests, List.drop_left, answersIn_replicate]
  refine congrArg (List.map · _) (funext fun i ↦ ?_)
  rw [nextOutcome, hrequests]

/-- A call consumes nothing and fails with a mistake in the configuration, or it consumes outcomes
as long as they may be retried and repetitions are left, and answers to the last of them. -/
theorem consumed_cases (call : NetworkCall) (session : Session) :
    (call.consumed session = [] ∧
      ∃ error, (call.perform session).1 = .error (.configuration error)) ∨
    ∃ url outcomes last, call.consumed session = outcomes ++ [last] ∧
      (∀ outcome ∈ outcomes, call.isRetryable session.client outcome = true) ∧
      (call.perform session).1 = call.answerTo session.client url last := by
  have hcourse := call.course session
  generalize hresult : (call.perform session).1 = result at hcourse
  generalize hafter : (call.perform session).2 = after at hcourse
  cases hcourse with
  | astray error htarget => exact .inl ⟨consumed_of_requestsIn_eq (by rw [hafter]), error, rfl⟩
  | disconnected url htarget htransport =>
    exact .inl ⟨consumed_of_requestsIn_eq (by rw [hafter]), _, rfl⟩
  | unloaded url transport error loaded htarget htransport hheaders =>
    refine .inl ⟨consumed_of_requestsIn_eq ?_, error, rfl⟩
    rw [hafter]
    exact (loading_of_eq hheaders).requestsIn
  | exchanged url transport headers loaded count htarget htransport hheaders hstops =>
    refine .inr ⟨url, (List.range count).map
      (nextOutcome transport ⟨call.method, url, headers⟩ loaded), _, ?_, ?_, rfl⟩
    · rw [consumed_of_loaded htransport htarget hheaders hstops, List.range_succ, List.map_append]
      rfl
    · intro outcome houtcome
      obtain ⟨i, hi, rfl⟩ := List.mem_map.mp houtcome
      exact hstops.before i (List.mem_range.mp hi)

end Consuming

/-! ### GET and POST -/

section Recovering

variable (client : Client) (path : String) (body : Json) (url : String)

/-- A GET request answers with a recoverable error exactly to a recoverable response. -/
theorem answerTo_get_eq_recoverable_iff (outcome : Outcome) (error : RecoverableError) :
    (NetworkCall.get path).answerTo client url outcome = .ok (.recoverable error) ↔
      ∃ response, outcome = .ok response ∧ ¬ response.isSuccess = true ∧
        recoverable? client.patterns response = some error := by
  cases outcome with
  | error failure => simp [answerTo, Client.answerTo]
  | ok response =>
    simp only [answerTo, Client.answerTo, hit?, Except.ok.injEq, exists_eq_left']
    by_cases hsuccess : response.isSuccess = true
    · simp [hsuccess]
    · cases recoverable? client.patterns response with
      | none => simp [hsuccess]
      | some found => simp [hsuccess]

/-- A GET request is not repeated after a recoverable response. -/
theorem not_isRecoverable_of_isRetryable {response : Response}
    (hretryable : (NetworkCall.get path).isRetryable client (.ok response) = true) :
    ¬ response.IsRecoverable client.patterns := by
  rintro ⟨-, hmentions⟩
  have hsome := recoverable?_isSome_iff.mpr hmentions
  have hnone : (recoverable? client.patterns response).isNone = true := by
    simp only [isRetryable, Outcome.isRetryable, hit?, Option.isNone_map, Bool.and_eq_true]
      at hretryable
    exact hretryable.1.2
  rw [Option.isNone_iff_eq_none.mp hnone] at hsome
  cases hsome

/-- For any other outcome, GET and POST requests are repeated alike and answer alike. -/
theorem get_agrees_post {outcome : Outcome}
    (hother : ∀ response, outcome = .ok response → ¬ response.IsRecoverable client.patterns) :
    (NetworkCall.get path).isRetryable client outcome =
        (NetworkCall.post path body).isRetryable client outcome ∧
      (NetworkCall.get path).answerTo client url outcome =
        (NetworkCall.post path body).answerTo client url outcome := by
  cases outcome with
  | error failure => exact ⟨rfl, rfl⟩
  | ok response =>
    by_cases hsuccess : response.isSuccess = true
    · simp [isRetryable, Outcome.isRetryable, answerTo, Client.answerTo, hsuccess]
    · have hnone : recoverable? client.patterns response = none := by
        rw [← Option.not_isSome_iff_eq_none, recoverable?_isSome_iff]
        exact fun hmentions ↦ hother response rfl ⟨hsuccess, hmentions⟩
      simp [isRetryable, Outcome.isRetryable, answerTo, Client.answerTo, hit?, hnone]

variable {client path body} {session : Session} {script : Nat → Outcome}

/-- On a script of outcomes of which a GET request consumes no recoverable response, a POST request
to the same path sends as many requests and returns the same. -/
theorem post_agrees_get (htransport : session.client.transport = some (.scripted script))
    (hother : ∀ response, .ok response ∈ (NetworkCall.get path).consumed session →
      ¬ response.IsRecoverable session.client.patterns) :
    (requestsIn ((NetworkCall.post path body).perform session).2.trace).length =
        (requestsIn ((NetworkCall.get path).perform session).2.trace).length ∧
      ((NetworkCall.post path body).perform session).1 =
        ((NetworkCall.get path).perform session).1 := by
  cases htarget : session.client.scopedUrl path with
  | error error =>
    have hget : (NetworkCall.get path).target session.client = .error error := htarget
    have hpost : (NetworkCall.post path body).target session.client = .error error := htarget
    rw [perform_of_target_error _ hget, perform_of_target_error _ hpost]
    exact ⟨rfl, rfl⟩
  | ok url =>
    have hget : (NetworkCall.get path).target session.client = .ok url := htarget
    have hpost : (NetworkCall.post path body).target session.client = .ok url := htarget
    cases hheaders : session.ensureHeaders with
    | mk loading loaded =>
      cases loading with
      | error error =>
        rw [perform_of_unloaded htransport hget hheaders,
          perform_of_unloaded htransport hpost hheaders]
        exact ⟨rfl, rfl⟩
      | ok headers =>
        obtain ⟨count, hstops⟩ := StopsAt.exists_count
          (fun i ↦ (NetworkCall.get path).isRetryable session.client
            (nextOutcome (.scripted script) ⟨.get, url, headers⟩ loaded i))
          session.client.settings.retry.retries
        have hconsumed := consumed_of_loaded htransport hget hheaders hstops
        -- A script does not see which request is sent.
        have hsame : ∀ i, nextOutcome (.scripted script) ⟨.post body, url, headers⟩ loaded i =
            nextOutcome (.scripted script) ⟨.get, url, headers⟩ loaded i := by
          intro i
          simp only [nextOutcome, Transport.scripted, List.length_append, List.length_replicate]
        have hagrees : ∀ i ≤ count,
            (NetworkCall.get path).isRetryable session.client
                (nextOutcome (.scripted script) ⟨.get, url, headers⟩ loaded i) =
              (NetworkCall.post path body).isRetryable session.client
                (nextOutcome (.scripted script) ⟨.get, url, headers⟩ loaded i) ∧
            (NetworkCall.get path).answerTo session.client url
                (nextOutcome (.scripted script) ⟨.get, url, headers⟩ loaded i) =
              (NetworkCall.post path body).answerTo session.client url
                (nextOutcome (.scripted script) ⟨.get, url, headers⟩ loaded i) := by
          intro i hi
          refine get_agrees_post session.client path body url fun response hresponse ↦
            hother response ?_
          rw [hconsumed, ← hresponse]
          exact List.mem_map.mpr ⟨i, List.mem_range.mpr (by omega), rfl⟩
        have hposted : StopsAt
            (fun i ↦ (NetworkCall.post path body).isRetryable session.client
              (nextOutcome (.scripted script) ⟨.post body, url, headers⟩ loaded i))
            session.client.settings.retry.retries count :=
          hstops.congr fun i hi ↦ by rw [hsame, (hagrees i hi).1]
        rw [perform_of_loaded _ htransport hget hheaders hstops,
          perform_of_loaded _ htransport hpost hheaders hposted]
        refine ⟨?_, ?_⟩
        · simp only [requestsIn_ended, List.length_append, List.length_replicate]
        · exact (congrArg _ (hsame count)).trans (hagrees count (Nat.le_refl count)).2.symm

end Recovering

/-! ### When an error is recoverable -/

/-- A GET request brings the recoverable error that is found in the last response it consumes. -/
theorem get_eq_recoverable_iff (path : String) (session : Session) (error : RecoverableError) :
    ((NetworkCall.get path).perform session).1 = .ok (.recoverable error) ↔
      ∃ response, ((NetworkCall.get path).consumed session).getLast? = some (.ok response) ∧
        ¬ response.isSuccess = true ∧
        recoverable? session.client.patterns response = some error := by
  rcases consumed_cases (NetworkCall.get path) session with
    ⟨hconsumed, mistake, hresult⟩ | ⟨url, before, last, hconsumed, -, hresult⟩
  · rw [hconsumed, hresult]
    constructor
    · intro herror
      cases herror
    · rintro ⟨response, hlast, -⟩
      cases hlast
  · rw [hconsumed, List.getLast?_concat, hresult, answerTo_get_eq_recoverable_iff]
    simp only [Option.some.injEq]

/-- No outcome before the last one that a GET request consumes is a recoverable response. -/
theorem not_isRecoverable_of_mem_dropLast (path : String) (session : Session)
    {response : Response}
    (hresponse : .ok response ∈ ((NetworkCall.get path).consumed session).dropLast) :
    ¬ response.IsRecoverable session.client.patterns := by
  rcases consumed_cases (NetworkCall.get path) session with
    ⟨hconsumed, -⟩ | ⟨url, before, last, hconsumed, hbefore, -⟩
  · rw [hconsumed] at hresponse
    cases hresponse
  · rw [hconsumed, List.dropLast_concat] at hresponse
    exact not_isRecoverable_of_isRetryable session.client path (hbefore _ hresponse)

/-- Recoverable errors. A GET request brings a recoverable error exactly if the last outcome that it
consumes is a recoverable response, and the error tells of that response. The outcomes before it are
no recoverable responses, so such a response is never followed by another request. If none is among
the consumed outcomes, then a POST request on the same script of outcomes sends the same number of
requests and returns the same document or error. -/
theorem get_recovers_iff (path : String) (session : Session) :
    let patterns := session.client.patterns
    let result := ((NetworkCall.get path).perform session).1
    let outcomes := (NetworkCall.get path).consumed session
    ((∃ error, result = .ok (.recoverable error)) ↔
        ∃ response, outcomes.getLast? = some (.ok response) ∧ response.IsRecoverable patterns) ∧
      (∀ error, result = .ok (.recoverable error) →
        ∃ response, outcomes.getLast? = some (.ok response) ∧ error.TellsOf patterns response) ∧
      (∀ response, .ok response ∈ outcomes.dropLast → ¬ response.IsRecoverable patterns) ∧
      ∀ script, session.client.transport = some (.scripted script) →
        (∀ response, .ok response ∈ outcomes → ¬ response.IsRecoverable patterns) →
        ∀ body,
          (requestsIn ((NetworkCall.post path body).perform session).2.trace).length =
              (requestsIn ((NetworkCall.get path).perform session).2.trace).length ∧
            ((NetworkCall.post path body).perform session).1 = result := by
  intro patterns result outcomes
  refine ⟨⟨?_, ?_⟩, ?_, fun _ ↦ not_isRecoverable_of_mem_dropLast path session,
    fun script htransport hother body ↦ post_agrees_get htransport hother⟩
  · rintro ⟨error, herror⟩
    obtain ⟨response, hlast, hfailed, hfound⟩ :=
      (get_eq_recoverable_iff path session error).mp herror
    exact ⟨response, hlast, hfailed,
      recoverable?_isSome_iff.mp (Option.isSome_of_eq_some hfound)⟩
  · rintro ⟨response, hlast, hfailed, hmentions⟩
    obtain ⟨error, hfound⟩ := Option.isSome_iff_exists.mp (recoverable?_isSome_iff.mpr hmentions)
    exact ⟨error, (get_eq_recoverable_iff path session error).mpr
      ⟨response, hlast, hfailed, hfound⟩⟩
  · intro error herror
    obtain ⟨response, hlast, -, hfound⟩ := (get_eq_recoverable_iff path session error).mp herror
    exact ⟨response, hlast, tellsOf_of_recoverable? hfound⟩

/-- A remote that does not answer in time, and then is overloaded and tells of two mistakes. -/
def lockedRemote : Transport :=
  .scripted fun
    | 0 => .error (.timeout (Duration.ofSeconds 30))
    | _ => .ok ⟨some .serviceUnavailable,
        Document.ofErrors [ErrorObject.ofDetail "no such user", ErrorObject.ofDetail "locked out"]⟩

/-- A session of a client for which some errors are recoverable; its first pattern is empty. -/
def lockedSession : Session :=
  Session.start ((plainClient lockedRemote).setPatterns ["", "lock", "user"])

theorem get_recovers_locked :
    ∃ response, ((NetworkCall.get "/v1/users/7").consumed lockedSession).getLast? =
        some (.ok response) ∧
      response.rawStatus = some 503 ∧
      RecoverableError.TellsOf ["", "lock", "user"] response
        ⟨.badRequest, ["no such user", "locked out"], "lock"⟩ := by
  have hresult : ((NetworkCall.get "/v1/users/7").perform lockedSession).1 =
      .ok (.recoverable ⟨.badRequest, ["no such user", "locked out"], "lock"⟩) := rfl
  obtain ⟨response, hlast, htells⟩ :=
    (get_recovers_iff "/v1/users/7" lockedSession).2.1 _ hresult
  refine ⟨response, hlast, ?_, htells⟩
  have hconsumed : ((NetworkCall.get "/v1/users/7").consumed lockedSession).getLast? =
      some (.ok ⟨some .serviceUnavailable, Document.ofErrors
        [ErrorObject.ofDetail "no such user", ErrorObject.ofDetail "locked out"]⟩) := rfl
  rw [hconsumed] at hlast
  obtain rfl := Except.ok.inj (Option.some.inj hlast)
  rfl

end NetworkCall

end ResourceLookup
