import ResourceLookup.Proofs.Operations

/-!
# Credentials are loaded late and once

A client asks for a token only when a request is about to be sent, stops asking with the first token
that is not blank, and sends every request with the headers built from that token. The invariant
`LoadsOnce` ties what a session holds to what its trace shows: without a token all answers of the
provider were unusable, with one the last answer was the first usable, headers were built from that
one, and no request went out before. `LoadsOnce.perform` is the step, `LoadsOnce.performAll` the
run, and `Session.performAll_loads_lazily` what a caller observes.

The headers of a trace are said to be built (`Client.HeadersBuilt`) where the trace has an initial
part that ends with building them, from the token that was given last before.
-/

set_option autoImplicit false
set_option relaxedAutoImplicit false

namespace ResourceLookup

open Session

/-- A client that was just built has neither token nor headers. -/
theorem Client.unloaded_of_build {parts : ClientParts} {client : Client}
    (hbuild : Client.build parts = .ok client) : client.token = none ∧ client.headers = none := by
  unfold Client.build at hbuild
  simp only at hbuild
  split at hbuild
  · cases hbuild
  · split at hbuild
    · cases hbuild
    · split at hbuild
      · cases hbuild
      · obtain rfl := Except.ok.inj hbuild
        exact ⟨rfl, rfl⟩

/-- The provider gives its first usable token as the answer to the question with that number. -/
structure TokenProvider.FirstGives (provider : TokenProvider) (number : Nat) (token : Secret) :
    Prop where
  gives : provider.Gives number token
  first : ∀ earlier < number, ∀ other, ¬ provider.Gives earlier other

/-- A trace in which the headers were built: it starts with a part in which the first usable token
was given, the steps of building the headers from it, and the report that they are there. -/
def Client.HeadersBuilt (client : Client) (trace : List Activity) (headers : HeaderMap) : Prop :=
  ∃ number token before steps,
    client.tokenProvider.FirstGives number token ∧
      tokenQuestionsIn before = number + 1 ∧
      OutboundHeaders.build token.exposed client.context client.settings.headerRules
        client.resolvers (resolverQuestionsIn before) = (.ok headers, steps) ∧
      before ++ steps.map activityOfStep ++ [.event .headersPrepared] <+: trace

/-- Headers that were built stay built. -/
theorem Client.HeadersBuilt.append {client : Client} {trace : List Activity} {headers : HeaderMap}
    (hbuilt : client.HeadersBuilt trace headers) (more : List Activity) :
    client.HeadersBuilt (trace ++ more) headers := by
  obtain ⟨number, token, before, steps, hfirst, hasked, hbuild, hprefix⟩ := hbuilt
  exact ⟨number, token, before, steps, hfirst, hasked, hbuild,
    hprefix.trans (List.prefix_append trace more)⟩

/-- An activity that asks for no token, and that carries the given headers if it is a request. -/
def Activity.Carries (headers : Option HeaderMap) : Activity → Prop
  | .tokenAsked => False
  | .sent request => headers = some request.headers
  | .event _ | .resolverAsked _ | .slept _ | .fetched _ => True

/-- What a session of a client holds agrees with what its trace shows. -/
structure LoadsOnce (client : Client) (session : Session) : Prop where
  setup : client.SameSetup session.client
  untold : session.client.token = none →
    ∀ number < tokenQuestionsIn session.trace, ∀ token,
      ¬ client.tokenProvider.Gives number token
  told : ∀ token, session.client.token = some token →
    ∃ number, tokenQuestionsIn session.trace = number + 1 ∧
      client.tokenProvider.FirstGives number token
  built : ∀ headers, session.client.headers = some headers →
    client.HeadersBuilt session.trace headers
  carried : ∀ before request rest, session.trace = before ++ .sent request :: rest →
    session.client.headers = some request.headers ∧
      client.HeadersBuilt before request.headers

/-- A request in a trace is one of its activities. -/
theorem Session.mem_requestsIn {request : Request} {trace : List Activity} :
    request ∈ requestsIn trace ↔ .sent request ∈ trace := by
  induction trace with
  | nil => simp [requestsIn]
  | cons activity rest ih =>
    cases activity <;> simp_all [requestsIn]

/-- Activities that carry headers ask for no token. -/
theorem tokenQuestionsIn_of_carries {headers : Option HeaderMap} {activities : List Activity}
    (hcarries : ∀ activity ∈ activities, activity.Carries headers) :
    tokenQuestionsIn activities = 0 := by
  rw [tokenQuestionsIn, List.countP_eq_zero]
  intro activity hactivity hasked
  obtain rfl : activity = .tokenAsked := eq_of_beq hasked
  exact hcarries _ hactivity

namespace LoadsOnce

variable {client : Client} {session after holder loaded : Session} {token : Secret}
  {headers : HeaderMap} {result : Except ConfigurationError HeaderMap}

/-- A session without headers has sent nothing. -/
theorem requestsIn_eq_nil (hsession : LoadsOnce client session)
    (hheaders : session.client.headers = none) : requestsIn session.trace = [] := by
  rw [List.eq_nil_iff_forall_not_mem]
  intro request hrequest
  obtain ⟨before, rest, htrace⟩ := List.append_of_mem (mem_requestsIn.mp hrequest)
  obtain ⟨hsome, -⟩ := hsession.carried before request rest htrace
  cases hheaders.symm.trans hsome

/-- A trace without requests carries none. -/
theorem carried_of_requestsIn_eq_nil {trace : List Activity} (htrace : requestsIn trace = [])
    (loadedHeaders : Option HeaderMap) (before : List Activity) (request : Request)
    (rest : List Activity) (hsplit : trace = before ++ .sent request :: rest) :
    loadedHeaders = some request.headers ∧ client.HeadersBuilt before request.headers := by
  have hmem : request ∈ requestsIn trace := by
    rw [mem_requestsIn, hsplit]
    exact List.mem_append_right before List.mem_cons_self
  rw [htrace] at hmem
  cases hmem

/-- A session goes on as it should with activities that carry its headers. -/
theorem extend (hsession : LoadsOnce client session) (added : List Activity)
    (hsetup : session.client.SameSetup after.client)
    (htoken : after.client.token = session.client.token)
    (hheaders : after.client.headers = session.client.headers)
    (htrace : after.trace = session.trace ++ added)
    (hcarries : ∀ activity ∈ added, activity.Carries session.client.headers) :
    LoadsOnce client after where
  setup := hsession.setup.trans hsetup
  untold := by
    rw [htoken, htrace, tokenQuestionsIn_append, tokenQuestionsIn_of_carries hcarries]
    exact hsession.untold
  told := by
    rw [htoken, htrace, tokenQuestionsIn_append, tokenQuestionsIn_of_carries hcarries]
    exact hsession.told
  built := by
    rw [hheaders, htrace]
    exact fun headers hsome ↦ (hsession.built headers hsome).append added
  carried := by
    rw [hheaders, htrace]
    intro before request rest hsplit
    -- The request is one of those added, or one that was sent before.
    have hadded : ∀ more, added = more ++ .sent request :: rest →
        session.client.headers = some request.headers ∧
          client.HeadersBuilt (session.trace ++ more) request.headers := by
      intro more hmore
      have hsome : session.client.headers = some request.headers :=
        hcarries (.sent request) (hmore ▸ List.mem_append_right more List.mem_cons_self)
      exact ⟨hsome, (hsession.built request.headers hsome).append more⟩
    rcases List.append_eq_append_iff.mp hsplit with ⟨more, hbefore, hmore⟩ | ⟨more, hbefore, hmore⟩
    · rw [hbefore]
      exact hadded more hmore
    · cases more with
      | nil =>
        rw [List.append_nil] at hbefore
        have hlast := hadded [] hmore.symm
        rw [List.append_nil, hbefore] at hlast
        exact hlast
      | cons activity more =>
        rw [List.cons_append, List.cons.injEq] at hmore
        obtain ⟨rfl, -⟩ := hmore
        exact hsession.carried before request more hbefore

/-- Holding a token keeps the two in agreement. Assumes: there are no headers yet. -/
theorem holding (hsession : LoadsOnce client session) (hheaders : session.client.headers = none)
    (hholding : Holding session token holder) : LoadsOnce client holder := by
  have hsetup := hholding.sameSetup
  have hunsent : requestsIn holder.trace = [] := by
    rw [← requestsIn_wireIn, hholding.wireIn, requestsIn_wireIn,
      hsession.requestsIn_eq_nil hheaders]
  cases hholding with
  | held htoken => exact hsession
  | fetched htoken hgives =>
    refine ⟨hsession.setup.trans hsetup, ?_, ?_, ?_, carried_of_requestsIn_eq_nil hunsent _⟩
    · intro hnone
      cases hnone
    · intro other hother
      obtain rfl : token = other := Option.some.inj hother
      refine ⟨tokenQuestionsIn session.trace, tokenQuestionsIn_append session.trace [.tokenAsked],
        ?_, hsession.untold htoken⟩
      rw [hsession.setup.tokenProvider]
      exact hgives
    · intro headers hsome
      cases hheaders.symm.trans hsome

/-- A question without a usable answer keeps the two in agreement. Assumes: there are neither
headers nor a token yet. -/
theorem refused (hsession : LoadsOnce client session) (hheaders : session.client.headers = none)
    (htoken : session.client.token = none)
    (hrefused : ∀ token,
      ¬ session.client.tokenProvider.Gives (tokenQuestionsIn session.trace) token) :
    LoadsOnce client (session.record .tokenAsked) := by
  have hquestions : tokenQuestionsIn (session.record .tokenAsked).trace =
      tokenQuestionsIn session.trace + 1 :=
    tokenQuestionsIn_append session.trace [.tokenAsked]
  have hunsent : requestsIn (session.record .tokenAsked).trace = [] := by
    rw [record_trace, requestsIn_append, hsession.requestsIn_eq_nil hheaders]
    rfl
  refine ⟨hsession.setup, ?_, ?_, ?_, carried_of_requestsIn_eq_nil hunsent _⟩
  · intro _ number hnumber other
    rw [hquestions] at hnumber
    rcases Nat.lt_or_eq_of_le (Nat.le_of_lt_succ hnumber) with hearlier | rfl
    · exact hsession.untold htoken number hearlier other
    · rw [hsession.setup.tokenProvider]
      exact hrefused other
  · intro other hother
    cases htoken.symm.trans hother
  · intro headers hsome
    cases hheaders.symm.trans hsome

/-- The steps of building headers keep the two in agreement. -/
theorem recordSteps (hholder : LoadsOnce client holder) (steps : List HeaderStep) :
    LoadsOnce client (holder.recordSteps steps) := by
  refine hholder.extend (steps.map activityOfStep) (.refl _) rfl rfl rfl ?_
  intro activity hactivity
  obtain ⟨step, -, rfl⟩ := List.mem_map.mp hactivity
  cases step <;> trivial

/-- Keeping headers keeps the two in agreement. Assumes: there are no headers yet, and these are
built from the token that is held. -/
theorem keepHeaders {steps : List HeaderStep} (hholder : LoadsOnce client holder)
    (hheaders : holder.client.headers = none) (htoken : holder.client.token = some token)
    (hbuild : holder.headerBuild token = (.ok headers, steps)) :
    LoadsOnce client
      (((holder.recordSteps steps).report .headersPrepared).keepHeaders headers) := by
  have hunsent : requestsIn
      (((holder.recordSteps steps).report .headersPrepared).keepHeaders headers).trace = [] := by
    have hsteps := (hholder.recordSteps steps).requestsIn_eq_nil hheaders
    show requestsIn ((holder.recordSteps steps).trace ++ [.event .headersPrepared]) = []
    rw [requestsIn_append, hsteps]
    rfl
  refine ⟨hholder.setup.trans (.loaded holder.client holder.client.token (some headers)), ?_, ?_,
    ?_, carried_of_requestsIn_eq_nil hunsent _⟩
  · intro hnone
    cases htoken.symm.trans hnone
  · rw [tokenQuestionsIn_keepHeaders]
    exact hholder.told
  · intro other hother
    obtain rfl : headers = other := Option.some.inj hother
    obtain ⟨number, hasked, hfirst⟩ := hholder.told token htoken
    refine ⟨number, token, holder.trace, steps, hfirst, hasked, ?_, List.prefix_refl _⟩
    rw [hholder.setup.context, hholder.setup.settings, hholder.setup.resolvers]
    exact hbuild

/-- Loading headers keeps the two in agreement. -/
theorem loading (hsession : LoadsOnce client session)
    (hloading : Loading session result loaded) : LoadsOnce client loaded := by
  cases hloading with
  | kept headers hheaders => exact hsession
  | refused error hheaders htoken hrefused => exact hsession.refused hheaders htoken hrefused
  | unbuilt token holder invalid steps hheaders hholding hbuild =>
    exact (hsession.holding hheaders hholding).recordSteps steps
  | built token holder headers steps hheaders hholding hbuild =>
    exact (hsession.holding hheaders hholding).keepHeaders
      (hholding.client_headers.trans hheaders) hholding.client_token hbuild

end LoadsOnce

/-! ### Network calls -/

section Calling

variable {request : Request} {headers : Option HeaderMap}

/-- Reports carry whatever headers. -/
theorem carries_of_mem_map_event (events : List Event) :
    ∀ activity ∈ events.map Activity.event, activity.Carries headers := by
  intro activity hactivity
  obtain ⟨event, -, rfl⟩ := List.mem_map.mp hactivity
  trivial

/-- An announcement carries whatever headers. -/
theorem carries_of_mem_announcement (client : Client) :
    ∀ activity ∈ announcement client, activity.Carries headers := by
  unfold announcement
  split
  · exact carries_of_mem_map_event [.requestSent]
  · intro activity hactivity
    cases hactivity

/-- A repetition carries the headers of its request. -/
theorem carries_of_mem_round (client : Client) (pause : Duration) :
    ∀ activity ∈ round client request pause, activity.Carries (some request.headers) := by
  intro activity hactivity
  rcases List.mem_append.mp hactivity with hannounced | hrest
  · exact carries_of_mem_announcement client activity hannounced
  · simp only [List.mem_cons, List.not_mem_nil, or_false] at hrest
    rcases hrest with rfl | rfl | rfl
    · exact rfl
    · trivial
    · trivial

/-- Sending a request, however often it is repeated, appends activities that carry its headers. -/
theorem NetworkCall.ended_trace (call : NetworkCall) (client : Client) (transport : Transport)
    (request : Request) (loaded : Session) (count : Nat) :
    ∃ added, (call.ended client transport request loaded count).trace = loaded.trace ++ added ∧
      ∀ activity ∈ added, activity.Carries (some request.headers) := by
  have htrace : (call.ended client transport request loaded count).trace =
      loaded.trace ++ (((List.range count).flatMap fun i ↦ round loaded.client request
          (loaded.client.drawnPause (0 + i) ((pausesIn loaded.trace).length + i))) ++
        ((announcement loaded.client ++ [.sent request]) ++
          (call.closingFor client request.url
            (nextOutcome transport request loaded count)).map .event)) := by
    simp only [ended, reportAll_trace, attempted_trace, repeatedTimes_client, repeatedTimes_trace,
      List.append_assoc]
  refine ⟨_, htrace, fun activity hactivity ↦ ?_⟩
  rcases List.mem_append.mp hactivity with hrepeated | hlast
  · obtain ⟨i, -, hround⟩ := List.mem_flatMap.mp hrepeated
    exact carries_of_mem_round loaded.client _ activity hround
  · rcases List.mem_append.mp hlast with hattempt | hclosing
    · rcases List.mem_append.mp hattempt with hannounced | hsent
      · exact carries_of_mem_announcement loaded.client activity hannounced
      · obtain rfl : activity = .sent request := List.mem_singleton.mp hsent
        exact rfl
    · exact carries_of_mem_map_event _ activity hclosing

/-- Sending a request leaves the client as it is. -/
theorem NetworkCall.ended_client (call : NetworkCall) (client : Client) (transport : Transport)
    (request : Request) (loaded : Session) (count : Nat) :
    (call.ended client transport request loaded count).client = loaded.client := by
  simp only [ended, reportAll_client, attempted_client, repeatedTimes_client]

end Calling

namespace LoadsOnce

variable {client : Client} {session : Session}

/-- A network call keeps the two in agreement. -/
theorem call_perform (hsession : LoadsOnce client session) (call : NetworkCall) :
    LoadsOnce client (call.perform session).2 := by
  have hcourse := call.course session
  generalize (call.perform session).1 = result at hcourse
  generalize (call.perform session).2 = after at hcourse
  cases hcourse with
  | astray error htarget => exact hsession
  | disconnected url htarget htransport => exact hsession
  | unloaded url transport error loaded htarget htransport hheaders =>
    exact hsession.loading (loading_of_eq hheaders)
  | exchanged url transport headers loaded count htarget htransport hheaders hstops =>
    have hloading := loading_of_eq hheaders
    have hclient := call.ended_client session.client transport ⟨call.method, url, headers⟩ loaded
      count
    obtain ⟨added, htrace, hcarries⟩ := call.ended_trace session.client transport
      ⟨call.method, url, headers⟩ loaded count
    refine (hsession.loading hloading).extend added (hclient ▸ .refl _) (hclient ▸ rfl)
      (hclient ▸ rfl) htrace ?_
    rw [hloading.client_headers]
    exact hcarries

end LoadsOnce

/-- A network call asks for a token at most once, and only behind its checks and without one. -/
theorem NetworkCall.tokenQuestionsIn_perform (call : NetworkCall) (session : Session) :
    tokenQuestionsIn (call.perform session).2.trace = tokenQuestionsIn session.trace ∨
      tokenQuestionsIn (call.perform session).2.trace = tokenQuestionsIn session.trace + 1 ∧
        session.client.token = none ∧ call.PassesChecks session.client := by
  have hcourse := call.course session
  generalize (call.perform session).1 = result at hcourse
  generalize (call.perform session).2 = after at hcourse
  cases hcourse with
  | astray error htarget => exact .inl rfl
  | disconnected url htarget htransport => exact .inl rfl
  | unloaded url transport error loaded htarget htransport hheaders =>
    have hpasses : call.PassesChecks session.client :=
      ⟨⟨url, htarget⟩, by rw [htransport, Option.isSome_some]⟩
    exact (loading_of_eq hheaders).tokenQuestionsIn.imp_right
      fun ⟨hmore, htoken⟩ ↦ ⟨hmore, htoken, hpasses⟩
  | exchanged url transport headers loaded count htarget htransport hheaders hstops =>
    have hpasses : call.PassesChecks session.client :=
      ⟨⟨url, htarget⟩, by rw [htransport, Option.isSome_some]⟩
    obtain ⟨added, htrace, hcarries⟩ := call.ended_trace session.client transport
      ⟨call.method, url, headers⟩ loaded count
    rw [htrace, tokenQuestionsIn_append, tokenQuestionsIn_of_carries hcarries, Nat.add_zero]
    exact (loading_of_eq hheaders).tokenQuestionsIn.imp_right
      fun ⟨hmore, htoken⟩ ↦ ⟨hmore, htoken, hpasses⟩

/-! ### Runs -/

/-- An operation asks for a token at most once, and only for a network call behind its checks and
without a token. -/
theorem Operation.tokenQuestionsIn_perform (operation : Operation) (session : Session) :
    tokenQuestionsIn (operation.perform session).trace = tokenQuestionsIn session.trace ∨
      tokenQuestionsIn (operation.perform session).trace = tokenQuestionsIn session.trace + 1 ∧
        session.client.token = none ∧ operation.PassesChecks session.client := by
  have hcourse := operation.course session
  generalize operation.perform session = after at hcourse
  cases hcourse with
  | quiet events patterns hcall =>
    refine .inl ?_
    rw [reportAll_trace, tokenQuestionsIn_append, tokenQuestionsIn_map_event, Nat.add_zero]
  | calling call events hcall =>
    have hquestions : tokenQuestionsIn (session.reportAll events).trace =
        tokenQuestionsIn session.trace := by
      rw [reportAll_trace, tokenQuestionsIn_append, tokenQuestionsIn_map_event, Nat.add_zero]
    rw [← hquestions]
    rcases call.tokenQuestionsIn_perform (session.reportAll events) with
      hsame | ⟨hmore, htoken, hpasses⟩
    · exact .inl hsame
    · exact .inr ⟨hmore, htoken, call, hcall, hpasses⟩

namespace LoadsOnce

variable {client : Client} {session : Session}

/-- Reporting events keeps the two in agreement. -/
theorem reportAll (hsession : LoadsOnce client session) (events : List Event) :
    LoadsOnce client (session.reportAll events) :=
  hsession.extend (events.map .event) (.refl _) rfl rfl rfl (carries_of_mem_map_event events)

/-- An operation keeps the two in agreement. -/
theorem perform (hsession : LoadsOnce client session) (operation : Operation) :
    LoadsOnce client (operation.perform session) := by
  have hcourse := operation.course session
  generalize operation.perform session = after at hcourse
  cases hcourse with
  | quiet events patterns hcall =>
    exact hsession.extend (events.map .event) (.setPatterns session.client patterns) rfl rfl rfl
      (carries_of_mem_map_event events)
  | calling call events hcall => exact (hsession.reportAll events).call_perform call

/-- Runs keep the two in agreement. -/
theorem performAll (hsession : LoadsOnce client session) (operations : List Operation) :
    LoadsOnce client (session.performAll operations) := by
  induction operations generalizing session with
  | nil => exact hsession
  | cons operation rest ih => exact ih (hsession.perform operation)

/-- A client that was just built holds nothing, and its trace shows nothing. -/
theorem start {parts : ClientParts} (hbuild : Client.build parts = .ok client) :
    LoadsOnce client (Session.start client) := by
  obtain ⟨htoken, hheaders⟩ := Client.unloaded_of_build hbuild
  refine ⟨.refl _, ?_, ?_, ?_, carried_of_requestsIn_eq_nil rfl _⟩
  · intro _ number hnumber
    exact absurd hnumber (Nat.not_lt_zero number)
  · intro token hsome
    cases htoken.symm.trans hsome
  · intro headers hsome
    cases hheaders.symm.trans hsome

end LoadsOnce

/-- Credentials are loaded late and once. Assumes: a client as it is built. After any operations,
one more operation asks for a token at most once, only behind the checks of a network call that it
makes, and only if no answer so far was usable; every request was sent after its headers had been
built from the first usable token; and all requests carry the same headers. -/
theorem Session.performAll_loads_lazily (parts : ClientParts) (client : Client)
    (hbuild : Client.build parts = .ok client) (operations : List Operation) :
    let session := (Session.start client).performAll operations
    (∀ operation : Operation,
        let after := operation.perform session
        tokenQuestionsIn after.trace = tokenQuestionsIn session.trace ∨
          tokenQuestionsIn after.trace = tokenQuestionsIn session.trace + 1 ∧
            operation.PassesChecks session.client ∧
            ∀ number < tokenQuestionsIn session.trace, ∀ token,
              ¬ client.tokenProvider.Gives number token) ∧
      (∀ before request rest, session.trace = before ++ .sent request :: rest →
        client.HeadersBuilt before request.headers) ∧
      ∀ first ∈ requestsIn session.trace, ∀ second ∈ requestsIn session.trace,
        first.headers = second.headers := by
  have hsession : LoadsOnce client ((Session.start client).performAll operations) :=
    (LoadsOnce.start hbuild).performAll operations
  refine ⟨fun operation ↦ ?_, fun before request rest htrace ↦ ?_,
    fun first hfirst second hsecond ↦ ?_⟩
  · rcases operation.tokenQuestionsIn_perform ((Session.start client).performAll operations) with
      hsame | ⟨hmore, htoken, hpasses⟩
    · exact .inl hsame
    · exact .inr ⟨hmore, hpasses, hsession.untold htoken⟩
  · exact (hsession.carried before request rest htrace).2
  · have hheaders : ∀ request ∈ requestsIn ((Session.start client).performAll operations).trace,
        ((Session.start client).performAll operations).client.headers = some request.headers := by
      intro request hrequest
      obtain ⟨before, rest, htrace⟩ := List.append_of_mem (mem_requestsIn.mp hrequest)
      exact (hsession.carried before request rest htrace).1
    exact Option.some.inj ((hheaders first hfirst).symm.trans (hheaders second hsecond))

/-- Parts of a client of a remote on the same host, whose provider fails once, then gives a blank
token, and then another token with every question. -/
def hesitantParts : ClientParts where
  service := "products"
  baseUri := "http://[::1]:8080/"
  settings := ClientSettings.standard
  transport := some fun _ _ ↦ .ok ⟨StatusCode.ofNat? 200, Document.empty⟩
  tokenProvider := some (TokenProvider.inTurn (.error ⟨"vault is sealed", []⟩)
    [.ok ⟨" "⟩, .ok ⟨"tok-1"⟩, .ok ⟨"tok-2"⟩])
  resolvers := ⟨[]⟩
  context := RequestContext.empty

/-- Four calls of one client. -/
def fourCalls : List Operation :=
  [.network (.get "/v1/products/7"), .network (.getUserUrl "/v1/products/7"),
    .network (.get "/v1/products/7"), .network (.post "/v1/orders" (.object []))]

theorem Session.performAll_loads_third_token :
    ∃ client, Client.build hesitantParts = .ok client ∧
      tokenQuestionsIn ((Session.start client).performAll fourCalls).trace = 3 ∧
      ∃ first second, requestsIn ((Session.start client).performAll fourCalls).trace =
        [first, second] ∧ first.headers = second.headers := by
  obtain ⟨-, -, hheaders⟩ := performAll_loads_lazily hesitantParts _ rfl fourCalls
  exact ⟨_, rfl, rfl, _, _, rfl, hheaders _ (.head _) _ (.tail _ (.head _))⟩

end ResourceLookup
