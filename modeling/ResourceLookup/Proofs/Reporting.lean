import ResourceLookup.Proofs.Trace
import ResourceLookup.Repository.Fetch

/-!
# Reports decide nothing

A trace holds what a session reported next to what it did. Two sessions with the same client at the
same time that did the same, whatever they reported, are told apart by no operation
(`Session.SameDoings`, `Session.IgnoresReports`): transports, token providers, resolvers and jitter
see of a trace only what was asked and sent and how often there was a pause. The hooks that fetch by
way of a client ignore reports in the same sense (`FetchPlan.fetch_ignoresReports`).
-/

set_option autoImplicit false
set_option relaxedAutoImplicit false

namespace ResourceLookup

/-- Whether an activity is a report. -/
def Activity.isReport : Activity → Bool
  | .event _ => true
  | .tokenAsked | .resolverAsked _ | .sent _ | .slept _ | .fetched _ => false

/-- Two results are the same, with states that are the same in some sense. -/
structure SameOutcome {α σ : Type} (same : σ → σ → Prop) (first second : α × σ) : Prop where
  value : first.1 = second.1
  state : same first.2 second.2

/-- What the same outcome is made of. -/
theorem SameOutcome.parts {α σ : Type} {same : σ → σ → Prop} {first second : α × σ}
    (hsame : SameOutcome same first second) :
    ∃ value after other, first = (value, after) ∧ second = (value, other) ∧ same after other := by
  obtain ⟨value, after⟩ := first
  obtain ⟨_, other⟩ := second
  obtain rfl : value = _ := hsame.value
  exact ⟨value, after, other, rfl, rfl, hsame.state⟩

namespace Session

/-- What was done, as a trace tells it, without what was reported. -/
def doingsIn (trace : List Activity) : List Activity :=
  trace.filter fun activity ↦ !activity.isReport

/-- Two sessions did the same, whatever they reported. -/
structure SameDoings (first second : Session) : Prop where
  client : first.client = second.client
  now : first.now = second.now
  doings : doingsIn first.trace = doingsIn second.trace

/-- An operation gives the same for sessions that did the same, and lets them do the same. -/
def IgnoresReports {α : Type} (operation : Session → α × Session) : Prop :=
  ∀ ⦃first second : Session⦄, SameDoings first second →
    SameOutcome SameDoings (operation first) (operation second)

/-! ### Views of what was done -/

section Views

variable (first second : List Activity)

@[simp] theorem doingsIn_append :
    doingsIn (first ++ second) = doingsIn first ++ doingsIn second :=
  List.filter_append first second

@[simp] theorem doingsIn_map_event (events : List Event) : doingsIn (events.map .event) = [] := by
  induction events with
  | nil => rfl
  | cons event rest ih => exact ih

theorem requestsIn_doingsIn (trace : List Activity) :
    requestsIn (doingsIn trace) = requestsIn trace := by
  induction trace with
  | nil => rfl
  | cons activity rest ih =>
    cases activity with
    | sent request => exact congrArg (request :: ·) ih
    | _ => exact ih

theorem pausesIn_doingsIn (trace : List Activity) : pausesIn (doingsIn trace) = pausesIn trace := by
  induction trace with
  | nil => rfl
  | cons activity rest ih =>
    cases activity with
    | slept pause => exact congrArg (pause :: ·) ih
    | _ => exact ih

theorem tokenQuestionsIn_doingsIn (trace : List Activity) :
    tokenQuestionsIn (doingsIn trace) = tokenQuestionsIn trace := by
  simp only [tokenQuestionsIn, doingsIn, List.countP_filter]
  refine List.countP_congr fun activity _ ↦ ?_
  cases activity <;> simp [Activity.isReport]

theorem resolverQuestionsIn_doingsIn (trace : List Activity) :
    resolverQuestionsIn (doingsIn trace) = resolverQuestionsIn trace := by
  simp only [resolverQuestionsIn, doingsIn, List.countP_filter]
  refine List.countP_congr fun activity _ ↦ ?_
  cases activity <;> simp [Activity.isReport]

end Views

namespace SameDoings

variable {first second third : Session}

theorem refl (session : Session) : SameDoings session session :=
  ⟨rfl, rfl, rfl⟩

theorem requestsIn_eq (hsame : SameDoings first second) :
    requestsIn first.trace = requestsIn second.trace := by
  rw [← requestsIn_doingsIn, hsame.doings, requestsIn_doingsIn]

theorem pausesIn_eq (hsame : SameDoings first second) :
    pausesIn first.trace = pausesIn second.trace := by
  rw [← pausesIn_doingsIn, hsame.doings, pausesIn_doingsIn]

theorem tokenQuestionsIn_eq (hsame : SameDoings first second) :
    tokenQuestionsIn first.trace = tokenQuestionsIn second.trace := by
  rw [← tokenQuestionsIn_doingsIn, hsame.doings, tokenQuestionsIn_doingsIn]

theorem resolverQuestionsIn_eq (hsame : SameDoings first second) :
    resolverQuestionsIn first.trace = resolverQuestionsIn second.trace := by
  rw [← resolverQuestionsIn_doingsIn, hsame.doings, resolverQuestionsIn_doingsIn]

/-- Going on alike. -/
theorem extend (hsame : SameDoings first second) (activities : List Activity) :
    SameDoings { first with trace := first.trace ++ activities }
      { second with trace := second.trace ++ activities } where
  client := hsame.client
  now := hsame.now
  doings := by rw [doingsIn_append, doingsIn_append, hsame.doings]

theorem record (hsame : SameDoings first second) (activity : Activity) :
    SameDoings (first.record activity) (second.record activity) :=
  hsame.extend [activity]

theorem report (hsame : SameDoings first second) (event : Event) :
    SameDoings (first.report event) (second.report event) :=
  hsame.record (.event event)

/-- Reporting more is doing nothing more. -/
theorem reportAll (session : Session) (events : List Event) :
    SameDoings (session.reportAll events) session where
  client := rfl
  now := rfl
  doings := by rw [reportAll_trace, doingsIn_append, doingsIn_map_event, List.append_nil]

theorem reportAll_both (hsame : SameDoings first second) (events : List Event) :
    SameDoings (first.reportAll events) (second.reportAll events) :=
  hsame.extend (events.map .event)

theorem withClient (hsame : SameDoings first second) {client other : Client}
    (hclient : client = other) :
    SameDoings { first with client := client } { second with client := other } where
  client := hclient
  now := hsame.now
  doings := hsame.doings

theorem sleep (hsame : SameDoings first second) (pause : Duration) :
    SameDoings (first.sleep pause) (second.sleep pause) where
  client := by rw [sleep_client, sleep_client, hsame.client]
  now := by rw [Session.sleep, Session.sleep, hsame.now]
  doings := by rw [sleep_trace, sleep_trace, doingsIn_append, doingsIn_append, hsame.doings]

end SameDoings

/-! ### Sending -/

section Sending

variable {α : Type} (transport : Transport) (request : Request)
  (intercept : Response → Option α)

theorem announce_sameDoings {first second : Session} (hsame : SameDoings first second) :
    SameDoings first.announce second.announce := by
  unfold announce
  rw [hsame.client]
  split
  · exact hsame.report .requestSent
  · exact hsame

theorem attempt_ignoresReports : IgnoresReports (attempt transport request intercept) := by
  intro first second hsame
  rw [attempt_eq, attempt_eq, hsame.client, hsame.requestsIn_eq]
  exact ⟨rfl, (announce_sameDoings hsame).record (.sent request)⟩

theorem exchange_ignoresReports (number left : Nat) :
    IgnoresReports (exchange transport request intercept number left) := by
  intro first second hsame
  induction left generalizing number first second with
  | zero =>
    obtain ⟨verdict, after, other, hfirst, hsecond, hafter⟩ :=
      (attempt_ignoresReports transport request intercept hsame).parts
    rw [exchange, exchange, hfirst, hsecond]
    cases verdict with
    | done response => exact ⟨rfl, hafter⟩
    | intercepted hit => exact ⟨rfl, hafter⟩
    | final error => exact ⟨rfl, hafter.report error.event⟩
    | retryable error => exact ⟨rfl, hafter.report error.event⟩
  | succ left ih =>
    obtain ⟨verdict, after, other, hfirst, hsecond, hafter⟩ :=
      (attempt_ignoresReports transport request intercept hsame).parts
    rw [exchange, exchange, hfirst, hsecond]
    cases verdict with
    | done response => exact ⟨rfl, hafter⟩
    | intercepted hit => exact ⟨rfl, hafter⟩
    | final error => exact ⟨rfl, hafter.report error.event⟩
    | retryable error =>
      have hpause : after.pauseBefore number = other.pauseBefore number := by
        rw [pauseBefore, pauseBefore, hafter.client, hafter.pausesIn_eq]
      simp only [hpause]
      exact ih (number + 1) ((hafter.report .retrying).sleep (other.pauseBefore number))

end Sending

/-! ### Loading -/

theorem buildHeaders_ignoresReports (token : Secret) :
    IgnoresReports fun session ↦ session.buildHeaders token := by
  intro first second hsame
  simp only [buildHeaders, hsame.client, hsame.resolverQuestionsIn_eq]
  rcases OutboundHeaders.build token.exposed second.client.context
    second.client.settings.headerRules second.client.resolvers
    (resolverQuestionsIn second.trace) with ⟨result, steps⟩
  have hsteps := hsame.extend (steps.map activityOfStep)
  cases result with
  | error invalid => exact ⟨rfl, hsteps.withClient rfl⟩
  | ok headers =>
    exact ⟨rfl, (hsteps.report .headersPrepared).withClient (by simp only [report_client])⟩

theorem ensureToken_ignoresReports : IgnoresReports ensureToken := by
  intro first second hsame
  simp only [ensureToken, hsame.client, hsame.tokenQuestionsIn_eq]
  cases second.client.token with
  | some token => exact ⟨rfl, hsame⟩
  | none =>
    have hasked := hsame.record .tokenAsked
    cases second.client.tokenProvider (tokenQuestionsIn second.trace) with
    | error cause => exact ⟨by simp only [record_client, hsame.client], hasked⟩
    | ok token =>
      by_cases hblank : token.isBlank = true
      · simp only [hblank, if_true]
        exact ⟨by simp only [record_client, hsame.client], hasked⟩
      · simp only [hblank]
        exact ⟨rfl, hasked.withClient (by rw [hasked.client])⟩

theorem ensureHeaders_ignoresReports : IgnoresReports ensureHeaders := by
  intro first second hsame
  simp only [ensureHeaders, hsame.client]
  cases second.client.headers with
  | some headers => exact ⟨rfl, hsame⟩
  | none =>
    obtain ⟨result, after, other, hfirst, hsecond, hafter⟩ :=
      (ensureToken_ignoresReports hsame).parts
    rw [hfirst, hsecond]
    cases result with
    | error error => exact ⟨rfl, hafter⟩
    | ok token => exact buildHeaders_ignoresReports token hafter

/-! ### Calls -/

theorem run_ignoresReports {α : Type} (url : String) (call : Call)
    (intercept : Response → Option α) : IgnoresReports (run url call intercept) := by
  intro first second hsame
  simp only [run, hsame.client]
  cases second.client.transport with
  | none => exact ⟨rfl, hsame⟩
  | some transport =>
    obtain ⟨result, after, other, hfirst, hsecond, hafter⟩ :=
      (ensureHeaders_ignoresReports hsame).parts
    rw [hfirst, hsecond]
    cases result with
    | error error => exact ⟨rfl, hafter⟩
    | ok headers =>
      obtain ⟨answer, last, otherLast, hended, hotherEnded, hlast⟩ :=
        (exchange_ignoresReports transport ⟨call, url, headers⟩ intercept 0
          after.client.settings.retry.retries hafter).parts
      simp only [← hafter.client, hended, hotherEnded]
      cases answer with
      | error error => exact ⟨rfl, hlast⟩
      | ok answer => exact ⟨rfl, hlast⟩

theorem get_ignoresReports (path : String) : IgnoresReports (Session.get path) := by
  intro first second hsame
  simp only [Session.get, hsame.client]
  cases second.client.scopedUrl path with
  | error error => exact ⟨rfl, hsame⟩
  | ok url =>
    obtain ⟨result, after, other, hfirst, hsecond, hafter⟩ :=
      (run_ignoresReports url .get (recoverable? second.client.patterns) hsame).parts
    simp only [hfirst, hsecond]
    rcases result with error | response | hit
    · exact ⟨rfl, hafter⟩
    · exact ⟨rfl, hafter⟩
    · exact ⟨rfl, hafter.report .recoverableMatched⟩

theorem post_ignoresReports (path : String) (body : Json) :
    IgnoresReports (Session.post path body) := by
  intro first second hsame
  simp only [Session.post, hsame.client]
  cases second.client.scopedUrl path with
  | error error => exact ⟨rfl, hsame⟩
  | ok url =>
    obtain ⟨result, after, other, hfirst, hsecond, hafter⟩ :=
      (run_ignoresReports url (.post body) interceptNothing hsame).parts
    simp only [hfirst, hsecond]
    rcases result with error | response | hit
    · exact ⟨rfl, hafter⟩
    · exact ⟨rfl, hafter⟩
    · exact hit.elim

theorem fetchByQuery_ignoresReports (path : String) (parameters : Form.Parameters) :
    IgnoresReports (Session.fetchByQuery path parameters) := by
  intro first second hsame
  rw [Session.fetchByQuery, Session.fetchByQuery]
  cases Form.encodeQuery parameters with
  | error reason => exact ⟨rfl, hsame⟩
  | ok query =>
    have hjudged := hsame.reportAll_both (judgePath (withQuery path query)).events
    simp only [Session.allowsGet, hsame.client]
    cases second.client.allowsGet (withQuery path query) with
    | true => exact get_ignoresReports (withQuery path query) hjudged
    | false =>
      obtain ⟨result, after, other, hfirst, hsecond, hafter⟩ :=
        (post_ignoresReports path (queryBody query) (hjudged.report .queryFallsBackToPost)).parts
      simp only [hfirst, hsecond]
      cases result with
      | error error => exact ⟨rfl, hafter⟩
      | ok response => exact ⟨rfl, hafter⟩

end Session

/-! ### Repositories -/

namespace Repository

/-- Two repositories have the same results, of sessions that did the same. -/
structure SameDoings (first second : Repository) : Prop where
  session : first.session.SameDoings second.session
  results : first.results = second.results

namespace SameDoings

variable {first second : Repository}

theorem refl (repository : Repository) : SameDoings repository repository :=
  ⟨.refl _, rfl⟩

/-- Reporting more is doing nothing more. -/
theorem reportAll (repository : Repository) (events : List Event) :
    SameDoings (repository.reportAll events) repository :=
  ⟨.reportAll repository.session events, rfl⟩

theorem report (hsame : SameDoings first second) (event : Event) :
    SameDoings (first.report event) (second.report event) :=
  ⟨hsame.session.report event, hsame.results⟩

theorem record (hsame : SameDoings first second) (activity : Activity) :
    SameDoings (first.record activity) (second.record activity) :=
  ⟨hsame.session.record activity, hsame.results⟩

theorem cacheDocument (hsame : SameDoings first second) (document : Document) :
    SameDoings (first.cacheDocument document).2 (second.cacheDocument document).2 :=
  ⟨hsame.session, congrArg (fun results ↦ (results.addDocument document).2) hsame.results⟩

theorem cacheSingle (hsame : SameDoings first second) (document : Document) :
    SameDoings (first.cacheSingle document).2 (second.cacheSingle document).2 :=
  ⟨hsame.session, congrArg (fun results ↦ (results.addSingle document).2) hsame.results⟩

theorem withSession {α : Type} {operation : Session → α × Session}
    (hsame : SameDoings first second) (hoperation : Session.IgnoresReports operation) :
    SameOutcome SameDoings (first.withSession operation) (second.withSession operation) := by
  obtain ⟨value, after, other, hfirst, hsecond, hafter⟩ := (hoperation hsame.session).parts
  rw [Repository.withSession, Repository.withSession, hfirst, hsecond]
  exact ⟨rfl, hafter, hsame.results⟩

end SameDoings

end Repository

/-- A hook brings the same for repositories that did the same, whatever they reported. -/
def Fetch.IgnoresReports (fetch : Fetch) : Prop :=
  ∀ (ids : List String) ⦃first second : Repository⦄, first.SameDoings second →
    SameOutcome Repository.SameDoings (fetch ids first) (fetch ids second)

namespace FetchPlan

variable {first second : Repository}

theorem keepFetched_sameDoings {operation : Session → Except RemoteError Fetched × Session}
    (hoperation : Session.IgnoresReports operation) (hsame : first.SameDoings second) :
    SameOutcome Repository.SameDoings (keepFetched (first.withSession operation))
      (keepFetched (second.withSession operation)) := by
  obtain ⟨fetched, after, other, hfirst, hsecond, hafter⟩ := (hsame.withSession hoperation).parts
  rw [hfirst, hsecond]
  rcases fetched with error | response | hit
  · exact ⟨rfl, hafter⟩
  · exact ⟨rfl, hafter.cacheDocument response.document⟩
  · exact ⟨rfl, hafter⟩

theorem fetchEach_sameDoings (path : String) (ids : List String)
    (hsame : first.SameDoings second) :
    SameOutcome Repository.SameDoings (fetchEach path ids first) (fetchEach path ids second) := by
  induction ids generalizing first second with
  | nil => exact ⟨rfl, hsame⟩
  | cons id rest ih =>
    obtain ⟨fetched, after, other, hfirst, hsecond, hafter⟩ :=
      (hsame.withSession (Session.get_ignoresReports (path ++ "/" ++ id))).parts
    rw [fetchEach, fetchEach, hfirst, hsecond]
    rcases fetched with error | response | hit
    · exact ⟨rfl, hafter⟩
    · exact ih (hafter.cacheSingle response.document)
    · exact ih hafter

/-- The usual ways to fetch do not depend on what was reported. -/
theorem fetch_ignoresReports (plan : FetchPlan) : Fetch.IgnoresReports plan.fetch := by
  intro ids first second hsame
  cases plan with
  | query path =>
    rw [fetch, fetch]
    exact keepFetched_sameDoings (Session.fetchByQuery_ignoresReports path _) hsame
  | address path =>
    rw [fetch, fetch]
    exact keepFetched_sameDoings (Session.get_ignoresReports _) hsame
  | body path =>
    obtain ⟨posted, after, other, hfirst, hsecond, hafter⟩ :=
      (hsame.withSession (Session.post_ignoresReports path (idsBody ids))).parts
    rw [fetch, fetch, hfirst, hsecond]
    cases posted with
    | error error => exact ⟨rfl, hafter⟩
    | ok response => exact ⟨rfl, hafter.cacheDocument response.document⟩
  | oneByOne path => exact fetchEach_sameDoings path ids hsame
  | nothing => exact ⟨rfl, hsame⟩
  | failing cause => exact ⟨rfl, hsame⟩

end FetchPlan

/-! ### Lookups -/

namespace Repository

variable {first second : Repository} {fetch : Fetch}

theorem missing_congr (hresults : first.results = second.results) (ids : List String) :
    first.missing ids = second.missing ids := by
  rw [missing, missing, hresults]

theorem present_congr (hresults : first.results = second.results) (ids : List String) :
    first.present ids = second.present ids := by
  rw [present, present, hresults]

/-- A lookup does not depend on what was reported, if its hook does not. -/
theorem findByIds_sameDoings (hfetch : fetch.IgnoresReports) (ids : List String)
    (hsame : first.SameDoings second) :
    SameOutcome SameDoings (first.findByIds fetch ids) (second.findByIds fetch ids) := by
  simp only [findByIds, missing_congr hsame.results]
  by_cases hwanted : (second.missing (normalizeIds ids)).isEmpty = true
  · simp only [hwanted, if_true]
    exact ⟨by rw [present_congr hsame.results], hsame⟩
  · simp only [hwanted]
    obtain ⟨fetched, after, other, hfirst, hsecond, hafter⟩ :=
      (hfetch (second.missing (normalizeIds ids)) ((hsame.report .fetchingUncached).record
        (.fetched (second.missing (normalizeIds ids))))).parts
    simp only [hfirst, hsecond]
    cases fetched with
    | ok done => exact ⟨by simp only [present_congr hafter.results]; rfl, hafter⟩
    | error error =>
      cases error with
      | other cause =>
        refine ⟨?_, hafter.report .lookupFailed⟩
        simp only [wrapFailure, hafter.session.client]
        rfl
      | _ => exact ⟨rfl, hafter⟩

end Repository

end ResourceLookup
