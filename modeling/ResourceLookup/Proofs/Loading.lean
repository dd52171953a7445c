import ResourceLookup.Proofs.Trace

/-!
# What loading credentials can do

`Session.ensureHeaders` has four ways to go, the constructors of `Session.Loading`: the headers are
there already; the provider is asked for a token and gives none that is usable; there is a token but
no headers can be built from it; headers are built and kept. `Session.loading` says that there are
no others, so that what loading preserves is proved by cases on these four.

Loading never sends a request and changes nothing of a client but its token and its headers
(`Session.Loading.sameSetup`, `Session.Loading.wireIn`).
-/

set_option autoImplicit false
set_option relaxedAutoImplicit false

namespace ResourceLookup

/-- The provider answers the question with that number with a token that is not blank. -/
def TokenProvider.Gives (provider : TokenProvider) (number : Nat) (token : Secret) : Prop :=
  provider number = .ok token ∧ token.isBlank = false

/-- Two clients that differ in their patterns, their token and their headers at most. -/
structure Client.SameSetup (first second : Client) : Prop where
  service : first.service = second.service
  baseUri : first.baseUri = second.baseUri
  settings : first.settings = second.settings
  transport : first.transport = second.transport
  tokenProvider : first.tokenProvider = second.tokenProvider
  resolvers : first.resolvers = second.resolvers
  jitter : first.jitter = second.jitter
  context : first.context = second.context

namespace Client.SameSetup

variable {first second third : Client}

theorem refl (client : Client) : SameSetup client client :=
  ⟨rfl, rfl, rfl, rfl, rfl, rfl, rfl, rfl⟩

theorem trans (hfirst : SameSetup first second) (hsecond : SameSetup second third) :
    SameSetup first third :=
  ⟨hfirst.service.trans hsecond.service, hfirst.baseUri.trans hsecond.baseUri,
    hfirst.settings.trans hsecond.settings, hfirst.transport.trans hsecond.transport,
    hfirst.tokenProvider.trans hsecond.tokenProvider, hfirst.resolvers.trans hsecond.resolvers,
    hfirst.jitter.trans hsecond.jitter, hfirst.context.trans hsecond.context⟩

/-- What is loaded is no part of the setup. -/
theorem loaded (client : Client) (token : Option Secret) (headers : Option HeaderMap) :
    SameSetup client { client with token := token, headers := headers } :=
  ⟨rfl, rfl, rfl, rfl, rfl, rfl, rfl, rfl⟩

/-- Other patterns are no other setup. -/
theorem setPatterns (client : Client) (patterns : List String) :
    SameSetup client (client.setPatterns patterns) :=
  ⟨rfl, rfl, rfl, rfl, rfl, rfl, rfl, rfl⟩

end Client.SameSetup

namespace Session

/-- How a session comes to hold a token: it holds one, or the provider gives one that is usable. -/
inductive Holding (session : Session) (token : Secret) : Session → Prop where
  | held (htoken : session.client.token = some token) : Holding session token session
  | fetched (htoken : session.client.token = none)
      (hgives : session.client.tokenProvider.Gives (tokenQuestionsIn session.trace) token) :
      Holding session token ((session.record .tokenAsked).keepToken token)

/-- The session after the given steps of building headers. -/
def recordSteps (session : Session) (steps : List HeaderStep) : Session :=
  { session with trace := session.trace ++ steps.map activityOfStep }

/-- What building headers from a token of a session gives. -/
def headerBuild (session : Session) (token : Secret) :
    Except InvalidHeader HeaderMap × List HeaderStep :=
  OutboundHeaders.build token.exposed session.client.context session.client.settings.headerRules
    session.client.resolvers (resolverQuestionsIn session.trace)

/-- The ways in which headers are loaded. -/
inductive Loading (session : Session) : Except ConfigurationError HeaderMap → Session → Prop where
  | kept (headers : HeaderMap) (hheaders : session.client.headers = some headers) :
      Loading session (.ok headers) session
  | refused (error : ConfigurationError) (hheaders : session.client.headers = none)
      (htoken : session.client.token = none)
      (hrefused : ∀ token,
        ¬ session.client.tokenProvider.Gives (tokenQuestionsIn session.trace) token) :
      Loading session (.error error) (session.record .tokenAsked)
  | unbuilt (token : Secret) (holder : Session) (invalid : InvalidHeader)
      (steps : List HeaderStep) (hheaders : session.client.headers = none)
      (hholding : Holding session token holder)
      (hbuild : holder.headerBuild token = (.error invalid, steps)) :
      Loading session (.error (.invalidHeader invalid.name)) (holder.recordSteps steps)
  | built (token : Secret) (holder : Session) (headers : HeaderMap) (steps : List HeaderStep)
      (hheaders : session.client.headers = none) (hholding : Holding session token holder)
      (hbuild : holder.headerBuild token = (.ok headers, steps)) :
      Loading session (.ok headers)
        (((holder.recordSteps steps).report .headersPrepared).keepHeaders headers)

/-- Building headers from a token that is held ends in one of the last two ways. -/
theorem loading_of_holding {session holder : Session} {token : Secret}
    (hheaders : session.client.headers = none) (hholding : Holding session token holder) :
    Loading session (holder.buildHeaders token).1 (holder.buildHeaders token).2 := by
  cases hbuild : holder.headerBuild token with
  | mk result steps =>
    have hresult : OutboundHeaders.build token.exposed holder.client.context
        holder.client.settings.headerRules holder.client.resolvers
        (resolverQuestionsIn holder.trace) = (result, steps) := hbuild
    rw [buildHeaders, hresult]
    cases result with
    | error invalid => exact .unbuilt token holder invalid steps hheaders hholding hbuild
    | ok headers => exact .built token holder headers steps hheaders hholding hbuild

/-- Loading goes one of the four ways. -/
theorem loading (session : Session) :
    Loading session session.ensureHeaders.1 session.ensureHeaders.2 := by
  unfold ensureHeaders
  cases hheaders : session.client.headers with
  | some headers => exact .kept headers hheaders
  | none =>
    unfold ensureToken
    cases htoken : session.client.token with
    | some token => exact loading_of_holding hheaders (.held htoken)
    | none =>
      cases hanswer : session.client.tokenProvider (tokenQuestionsIn session.trace) with
      | error cause =>
        refine .refused _ hheaders htoken fun token hgives ↦ ?_
        exact absurd (hanswer.symm.trans hgives.1) (by simp)
      | ok token =>
        by_cases hblank : token.isBlank = true
        · simp only [hblank, if_true]
          refine .refused _ hheaders htoken fun other hgives ↦ ?_
          obtain rfl : token = other := Except.ok.inj (hanswer.symm.trans hgives.1)
          exact absurd (hblank.symm.trans hgives.2) (by simp)
        · simp only [hblank]
          exact loading_of_holding hheaders
            (.fetched htoken ⟨hanswer, Bool.eq_false_iff.mpr hblank⟩)

theorem loading_of_eq {session loaded : Session} {result : Except ConfigurationError HeaderMap}
    (hheaders : session.ensureHeaders = (result, loaded)) : Loading session result loaded := by
  have hloading := loading session
  rw [hheaders] at hloading
  exact hloading

/-! ### What loading leaves as it is -/

/-- The steps of building headers put nothing on the wire. -/
@[simp] theorem wireIn_map_activityOfStep (steps : List HeaderStep) :
    wireIn (steps.map activityOfStep) = [] := by
  induction steps with
  | nil => rfl
  | cons step rest ih => cases step <;> exact ih

/-- The steps of building headers ask for no token. -/
@[simp] theorem tokenQuestionsIn_map_activityOfStep (steps : List HeaderStep) :
    tokenQuestionsIn (steps.map activityOfStep) = 0 := by
  rw [tokenQuestionsIn, List.countP_eq_zero]
  intro activity hactivity
  obtain ⟨step, _, rfl⟩ := List.mem_map.mp hactivity
  cases step <;> simp [activityOfStep]

variable {session holder loaded : Session} {token : Secret}
  {result : Except ConfigurationError HeaderMap}

theorem Holding.sameSetup (hholding : Holding session token holder) :
    session.client.SameSetup holder.client := by
  cases hholding with
  | held htoken => exact .refl _
  | fetched htoken hgives => exact .loaded session.client (some token) session.client.headers

/-- What holds a token is the client. -/
theorem Holding.client_token (hholding : Holding session token holder) :
    holder.client.token = some token := by
  cases hholding with
  | held htoken => exact htoken
  | fetched htoken hgives => rfl

theorem Holding.client_headers (hholding : Holding session token holder) :
    holder.client.headers = session.client.headers := by
  cases hholding <;> rfl

theorem Holding.wireIn (hholding : Holding session token holder) :
    wireIn holder.trace = wireIn session.trace := by
  cases hholding with
  | held htoken => rfl
  | fetched htoken hgives =>
    exact (wireIn_append session.trace [.tokenAsked]).trans (List.append_nil _)

/-- Holding a token asks for one only if none is held. -/
theorem Holding.tokenQuestionsIn (hholding : Holding session token holder) :
    tokenQuestionsIn holder.trace = tokenQuestionsIn session.trace ∨
      tokenQuestionsIn holder.trace = tokenQuestionsIn session.trace + 1 ∧
        session.client.token = none := by
  cases hholding with
  | held htoken => exact .inl rfl
  | fetched htoken hgives =>
    exact .inr ⟨tokenQuestionsIn_append session.trace [.tokenAsked], htoken⟩

/-- Loading leaves the setup of the client as it is. -/
theorem Loading.sameSetup (hloading : Loading session result loaded) :
    session.client.SameSetup loaded.client := by
  cases hloading with
  | kept headers hheaders => exact .refl _
  | refused error hheaders htoken hrefused => exact .refl _
  | unbuilt token holder invalid steps hheaders hholding hbuild => exact hholding.sameSetup
  | built token holder headers steps hheaders hholding hbuild =>
    exact hholding.sameSetup.trans (.loaded holder.client holder.client.token (some headers))

/-- Loading puts nothing on the wire. -/
theorem Loading.wireIn (hloading : Loading session result loaded) :
    wireIn loaded.trace = wireIn session.trace := by
  cases hloading with
  | kept headers hheaders => rfl
  | refused error hheaders htoken hrefused =>
    exact (wireIn_append session.trace [.tokenAsked]).trans (List.append_nil _)
  | unbuilt token holder invalid steps hheaders hholding hbuild =>
    simp only [recordSteps, wireIn_append, wireIn_map_activityOfStep, List.append_nil,
      hholding.wireIn]
  | built token holder headers steps hheaders hholding hbuild =>
    have hreport : Session.wireIn [.event .headersPrepared] = [] := rfl
    simp only [keepHeaders, report_trace, recordSteps, wireIn_append, wireIn_map_activityOfStep,
      hreport, List.append_nil, hholding.wireIn]

/-- Loading sends no request. -/
theorem Loading.requestsIn (hloading : Loading session result loaded) :
    requestsIn loaded.trace = requestsIn session.trace := by
  rw [← requestsIn_wireIn, hloading.wireIn, requestsIn_wireIn]

/-- Loading makes no pause. -/
theorem Loading.pausesIn (hloading : Loading session result loaded) :
    pausesIn loaded.trace = pausesIn session.trace := by
  rw [← pausesIn_wireIn, hloading.wireIn, pausesIn_wireIn]

/-- Building headers asks for no token. -/
theorem tokenQuestionsIn_keepHeaders (holder : Session) (steps : List HeaderStep)
    (headers : HeaderMap) :
    Session.tokenQuestionsIn
        (((holder.recordSteps steps).report .headersPrepared).keepHeaders headers).trace =
      Session.tokenQuestionsIn holder.trace := by
  have hreport : Session.tokenQuestionsIn [.event .headersPrepared] = 0 :=
    tokenQuestionsIn_map_event [.headersPrepared]
  simp only [keepHeaders, report_trace, recordSteps, tokenQuestionsIn_append,
    tokenQuestionsIn_map_activityOfStep, hreport, Nat.add_zero]

/-- Loading that gives headers leaves them with the client. -/
theorem Loading.client_headers {headers : HeaderMap}
    (hloading : Loading session (.ok headers) loaded) : loaded.client.headers = some headers := by
  cases hloading with
  | kept headers hheaders => exact hheaders
  | built token holder headers steps hheaders hholding hbuild => rfl

/-- Loading asks for a token at most once, and only if none is held. -/
theorem Loading.tokenQuestionsIn (hloading : Loading session result loaded) :
    tokenQuestionsIn loaded.trace = tokenQuestionsIn session.trace ∨
      tokenQuestionsIn loaded.trace = tokenQuestionsIn session.trace + 1 ∧
        session.client.token = none := by
  cases hloading with
  | kept headers hheaders => exact .inl rfl
  | refused error hheaders htoken hrefused =>
    exact .inr ⟨tokenQuestionsIn_append session.trace [.tokenAsked], htoken⟩
  | unbuilt token holder invalid steps hheaders hholding hbuild =>
    rw [recordSteps, tokenQuestionsIn_append, tokenQuestionsIn_map_activityOfStep, Nat.add_zero]
    exact hholding.tokenQuestionsIn
  | built token holder headers steps hheaders hholding hbuild =>
    rw [tokenQuestionsIn_keepHeaders]
    exact hholding.tokenQuestionsIn

end Session

end ResourceLookup
