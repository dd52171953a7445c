import ResourceLookup.Proofs.AddressStart
import ResourceLookup.Proofs.LazyCredentials

/-!
# Calls stay on the origin of the base address

The calls that carry the credentials of a client below its base address (`ScopedCall`) are getting
and posting a document and sending parameters. Whatever their paths are, the requests of such calls
go to addresses with the origin of the base address, and an absolute path with another origin is
refused before anything is asked or sent (`ScopedCall.performAll_stays_on_origin`).

A path that is not absolute is put behind the base address and a slash, which leads to the same
scheme, host and port (`Url.eq_of_parse_below`). One that is absolute is compared with the base
address. Parameters behind an absolute path do not change its origin either
(`Url.parse_of_parse_withParameters`), so that it is refused with them if it is refused without.

Parameters that cannot be written are refused first, whatever the path is
(`ScopedCall.perform_unwritable_foreign`).
-/

set_option autoImplicit false
set_option relaxedAutoImplicit false

namespace ResourceLookup

open Session

/-! ### The origin of a client -/

/-- A valid base address leads to a host of the web. -/
theorem parse_of_validateBaseUri {service key uri : String}
    (hvalid : validateBaseUri service key uri = .ok ()) :
    ∃ base, Url.parse uri = .ok base ∧ Url.SchemeKind.of base.scheme = .web := by
  obtain ⟨base, hparse, hscheme, -⟩ := validateBaseUri_eq_ok_iff.mp hvalid
  refine ⟨base, hparse, ?_⟩
  rcases hscheme with hscheme | hscheme <;> rw [hscheme] <;> rfl

namespace Client

/-- An address has the origin of the base address. -/
def SharesOrigin (client : Client) (url : String) : Prop :=
  ∃ base address, Url.parse client.baseUri = .ok base ∧ Url.parse url = .ok address ∧
    Url.sameOrigin base address = true

variable {client other : Client} {path url : String}

theorem sharesOrigin_iff : client.SharesOrigin url ↔ sameOrigin client.baseUri url = true := by
  unfold SharesOrigin sameOrigin
  cases Url.parse client.baseUri with
  | error fault => simp
  | ok base =>
    cases Url.parse url with
    | error fault => simp
    | ok address => simp

theorem SharesOrigin.of_baseUri_eq (hbase : client.baseUri = other.baseUri)
    (hshares : client.SharesOrigin url) : other.SharesOrigin url := by
  rw [sharesOrigin_iff, ← hbase]
  exact sharesOrigin_iff.mp hshares

/-- The base address of a client that was built was found valid. -/
theorem validateBaseUri_of_build {parts : ClientParts} (hbuild : build parts = .ok client) :
    validateBaseUri parts.service "base_uri" client.baseUri = .ok () := by
  unfold build at hbuild
  simp only at hbuild
  split at hbuild
  · cases hbuild
  · next hvalid =>
    split at hbuild
    · cases hbuild
    · split at hbuild
      · cases hbuild
      · obtain rfl := Except.ok.inj hbuild
        exact hvalid

/-- The address of a path that is admitted has the origin of the base address, if it is an address.
Assumes: a base address of the web. -/
theorem sharesOrigin_of_scopedUrl {base address : Url.Address}
    (hbase : Url.parse client.baseUri = .ok base) (hweb : Url.SchemeKind.of base.scheme = .web)
    (hurl : client.scopedUrl path = .ok url) (hparse : Url.parse url = .ok address) :
    client.SharesOrigin url := by
  rw [scopedUrl, urlFor] at hurl
  by_cases habsolute : Url.isAbsolute path = true
  · simp only [habsolute, if_true, Bool.true_and, Bool.not_eq_true'] at hurl
    split at hurl
    · cases hurl
    · next hsame =>
      obtain rfl := Except.ok.inj hurl
      exact sharesOrigin_iff.mpr (by simpa using hsame)
  · simp only [habsolute] at hurl
    obtain rfl := Except.ok.inj hurl
    obtain rfl := Url.eq_of_parse_below hbase hweb hparse
    exact ⟨address, address, hbase, hparse, by simp [Url.sameOrigin]⟩

/-- An absolute path with another origin is not admitted. -/
theorem scopedUrl_of_foreign (habsolute : Url.isAbsolute path = true)
    (hforeign : ¬ client.SharesOrigin path) :
    client.scopedUrl path = .error (.foreignUrl client.service path) := by
  have hsame : sameOrigin client.baseUri path = false := by
    rwa [sharesOrigin_iff, Bool.not_eq_true] at hforeign
  rw [scopedUrl, urlFor, if_pos habsolute, habsolute, hsame]
  rfl

end Client

/-! ### Paths with parameters -/

theorem isAbsolute_withQuery {path : String} (query : String)
    (habsolute : Url.isAbsolute path = true) :
    Url.isAbsolute (withQuery path query) = true := by
  have hprefix : path.toList <+: (withQuery path query).toList := by
    unfold withQuery
    split
    · exact List.prefix_refl _
    · split <;> simp only [String.toList_append, List.append_assoc] <;>
        exact List.prefix_append _ _
  rw [Url.isAbsolute, Bool.or_eq_true, Text.startsWith_iff, Text.startsWith_iff] at habsolute ⊢
  exact habsolute.imp (·.trans hprefix) (·.trans hprefix)

/-- An absolute path that has the origin of the base address with parameters behind it has it
without them. -/
theorem Client.SharesOrigin.of_withQuery {client : Client} {path query : String}
    (habsolute : Url.isAbsolute path = true)
    (hshares : client.SharesOrigin (withQuery path query)) : client.SharesOrigin path := by
  obtain ⟨base, address, hbase, hparse, hsame⟩ := hshares
  refine ⟨base, address, hbase, ?_, hsame⟩
  unfold withQuery at hparse
  split at hparse
  · exact hparse
  · split at hparse
    · next hquestion =>
      rw [Url.parse, String.toList_append, String.toList_append, List.append_assoc] at hparse
      exact Url.parse_of_parse_withParameters habsolute
        (.inr ⟨rfl, List.contains_iff_mem.mp hquestion⟩) hparse
    · rw [Url.parse, String.toList_append, String.toList_append, List.append_assoc] at hparse
      exact Url.parse_of_parse_withParameters habsolute (.inl rfl) hparse

/-! ### What calls leave alone -/

/-- The setup of a client is not touched by its network calls. -/
theorem NetworkCall.sameSetup_perform (call : NetworkCall) (session : Session) :
    session.client.SameSetup (call.perform session).2.client := by
  have hcourse := call.course session
  generalize (call.perform session).1 = result at hcourse
  generalize (call.perform session).2 = after at hcourse
  cases hcourse with
  | astray error htarget => exact .refl _
  | disconnected url htarget htransport => exact .refl _
  | unloaded url transport error loaded htarget htransport hheaders =>
    exact (loading_of_eq hheaders).sameSetup
  | exchanged url transport headers loaded count htarget htransport hheaders hstops =>
    rw [ended_client]
    exact (loading_of_eq hheaders).sameSetup

/-! ### Calls below the base address -/

/-- A call below the base address of a client. -/
inductive ScopedCall where
  | get (path : String)
  | post (path : String) (body : Json)
  | fetchByQuery (path : String) (parameters : Form.Parameters)

namespace ScopedCall

/-- The path of a call. -/
def path : ScopedCall → String
  | .get path | .post path _ | .fetchByQuery path _ => path

/-- The call made on a session. -/
def perform (call : ScopedCall) (session : Session) : Except RemoteError Fetched × Session :=
  match call with
  | .get path => (NetworkCall.get path).perform session
  | .post path body => (NetworkCall.post path body).perform session
  | .fetchByQuery path parameters => session.fetchByQuery path parameters

/-- The call as an operation of a client. -/
def operation : ScopedCall → Operation
  | .get path => .network (.get path)
  | .post path body => .network (.post path body)
  | .fetchByQuery path parameters => .fetchByQuery path parameters

/-- Why the parameters of a call cannot be written, if they cannot. -/
def unsupported? : ScopedCall → Option Form.Unsupported
  | .get _ | .post _ _ => none
  | .fetchByQuery _ parameters =>
    match Form.encodeQuery parameters with
    | .error reason => some reason
    | .ok _ => none

variable {client : Client} {session : Session}

/-- As an operation a call leaves the session that it leaves when it is made. -/
theorem perform_operation (call : ScopedCall) (session : Session) :
    call.operation.perform session = (call.perform session).2 := by
  cases call <;> rfl

/-- The network call behind a call asks for an address below the base address. -/
theorem target_of_networkCall? {call : ScopedCall} {sent : NetworkCall}
    (hcall : call.operation.networkCall? client = some sent) (holder : Client) :
    ∃ path, sent.target holder = holder.scopedUrl path := by
  cases call with
  | get path =>
    obtain rfl := Option.some.inj hcall
    exact ⟨path, rfl⟩
  | post path body =>
    obtain rfl := Option.some.inj hcall
    exact ⟨path, rfl⟩
  | fetchByQuery path parameters =>
    rw [operation, Operation.networkCall?] at hcall
    split at hcall
    · cases hcall
    · next query hquery =>
      split at hcall
      · obtain rfl := Option.some.inj hcall
        exact ⟨withQuery path query, rfl⟩
      · obtain rfl := Option.some.inj hcall
        exact ⟨path, rfl⟩

/-- A call to another origin only reports events and fails: with a foreign address, or because its
parameters cannot be written. -/
theorem perform_of_foreign (call : ScopedCall) (habsolute : Url.isAbsolute call.path = true)
    (hforeign : ¬ session.client.SharesOrigin call.path) :
    (∃ events, (call.perform session).2 = session.reportAll events) ∧
      (call.unsupported? = none → ∃ url, (call.perform session).1 =
        .error (.configuration (.foreignUrl session.client.service url))) ∧
      ∀ reason, call.unsupported? = some reason →
        (call.perform session).1 = .error (.other ⟨reason.message, []⟩) := by
  have hrefused : ∀ (sent : NetworkCall) (events : List Event) (path : String),
      sent.target session.client = session.client.scopedUrl path →
      Url.isAbsolute path = true → ¬ session.client.SharesOrigin path →
      sent.perform (session.reportAll events) =
        (.error (.configuration (.foreignUrl session.client.service path)),
          session.reportAll events) := by
    intro sent events path htarget hpath hother
    refine sent.perform_of_target_error ?_
    rw [reportAll_client, htarget]
    exact Client.scopedUrl_of_foreign hpath hother
  have hsilent : ∀ (sent : NetworkCall) (path : String),
      sent.target session.client = session.client.scopedUrl path →
      Url.isAbsolute path = true → ¬ session.client.SharesOrigin path →
      sent.perform session =
        (.error (.configuration (.foreignUrl session.client.service path)), session) := by
    intro sent path htarget hpath hother
    have hnothing := hrefused sent [] path htarget hpath hother
    rwa [reportAll_nil] at hnothing
  cases call with
  | get path =>
    rw [perform, hsilent (.get path) path rfl habsolute hforeign]
    exact ⟨⟨[], (reportAll_nil session).symm⟩, fun _ ↦ ⟨path, rfl⟩, nofun⟩
  | post path body =>
    rw [perform, hsilent (.post path body) path rfl habsolute hforeign]
    exact ⟨⟨[], (reportAll_nil session).symm⟩, fun _ ↦ ⟨path, rfl⟩, nofun⟩
  | fetchByQuery path parameters =>
    rw [perform, unsupported?]
    cases hquery : Form.encodeQuery parameters with
    | error reason =>
      rw [Operation.fetchByQuery_of_encodeQuery_error hquery]
      refine ⟨⟨[], (reportAll_nil session).symm⟩, nofun, fun other hother ↦ ?_⟩
      obtain rfl := Option.some.inj hother
      rfl
    | ok query =>
      cases hallows : session.client.allowsGet (withQuery path query) with
      | true =>
        obtain ⟨events, hevents⟩ := Operation.fetchByQuery_of_allowsGet hquery hallows
        rw [hevents, hrefused (.get (withQuery path query)) events (withQuery path query) rfl
          (isAbsolute_withQuery query habsolute) fun hshares ↦ hforeign
            (hshares.of_withQuery habsolute)]
        exact ⟨⟨events, rfl⟩, fun _ ↦ ⟨withQuery path query, rfl⟩, nofun⟩
      | false =>
        obtain ⟨events, hevents⟩ := Operation.fetchByQuery_of_not_allowsGet hquery hallows
        rw [hevents, hrefused (.post path (queryBody query)) events path rfl habsolute hforeign]
        exact ⟨⟨events, rfl⟩, fun _ ↦ ⟨path, rfl⟩, nofun⟩

end ScopedCall

/-! ### Runs -/

/-- All requests of a session that lead anywhere lead to the origin of its client. -/
structure StaysOnOrigin (client : Client) (session : Session) : Prop where
  setup : client.SameSetup session.client
  sent : ∀ request ∈ requestsIn session.trace, ∀ address, Url.parse request.url = .ok address →
    client.SharesOrigin request.url

namespace StaysOnOrigin

variable {client : Client} {session : Session}

/-- A call below the base address stays on the origin. -/
theorem perform (hbase : ∃ base, Url.parse client.baseUri = .ok base ∧
      Url.SchemeKind.of base.scheme = .web)
    (hsession : StaysOnOrigin client session) (call : ScopedCall) :
    StaysOnOrigin client (call.operation.perform session) := by
  have hcourse := call.operation.course session
  generalize call.operation.perform session = after at hcourse
  cases hcourse with
  | quiet events patterns hcall =>
    refine ⟨hsession.setup.trans (.setPatterns session.client patterns), ?_⟩
    rw [reportAll_trace, requestsIn_append, requestsIn_map_event, List.append_nil]
    exact hsession.sent
  | calling sent events hcall =>
    obtain ⟨path, htarget⟩ := ScopedCall.target_of_networkCall? hcall session.client
    refine ⟨hsession.setup.trans (sent.sameSetup_perform (session.reportAll events)), ?_⟩
    have hbefore : requestsIn (session.reportAll events).trace = requestsIn session.trace := by
      rw [reportAll_trace, requestsIn_append, requestsIn_map_event, List.append_nil]
    rcases sent.requestsIn_perform (session.reportAll events) with
      hnothing | ⟨url, headers, count, hurl, hmore⟩
    · rw [hnothing, hbefore]
      exact hsession.sent
    · intro request hrequest address hparse
      rw [hmore, hbefore] at hrequest
      rcases List.mem_append.mp hrequest with hold | hnew
      · exact hsession.sent request hold address hparse
      · obtain rfl := List.eq_of_mem_replicate hnew
        obtain ⟨base, hbase, hweb⟩ := hbase
        rw [hsession.setup.baseUri] at hbase
        exact (Client.sharesOrigin_of_scopedUrl hbase hweb (htarget.symm.trans hurl) hparse)
          |>.of_baseUri_eq hsession.setup.baseUri.symm

/-- Calls below the base address stay on the origin. -/
theorem performAll (hbase : ∃ base, Url.parse client.baseUri = .ok base ∧
      Url.SchemeKind.of base.scheme = .web)
    (hsession : StaysOnOrigin client session) (calls : List ScopedCall) :
    StaysOnOrigin client (session.performAll (calls.map ScopedCall.operation)) := by
  induction calls generalizing session with
  | nil => exact hsession
  | cons call rest ih => exact ih (hsession.perform hbase call)

end StaysOnOrigin

/-- Credentials stay on the configured origin. Assumes: a client as it is built. Every request of
calls below its base address that goes to an address at all goes to one with the origin of the base
address. After such calls, one more with an absolute path of another origin only reports events: the
client keeps its token and its headers, and nothing is asked or sent. It fails with a foreign
address, unless it has parameters that cannot be written, for which it fails before its path is
looked at. -/
theorem ScopedCall.performAll_stays_on_origin (parts : ClientParts) (client : Client)
    (hbuild : Client.build parts = .ok client) (calls : List ScopedCall) :
    let session := (Session.start client).performAll (calls.map ScopedCall.operation)
    (∀ request ∈ requestsIn session.trace, ∀ address, Url.parse request.url = .ok address →
        client.SharesOrigin request.url) ∧
      ∀ call : ScopedCall, Url.isAbsolute call.path = true → ¬ client.SharesOrigin call.path →
        (∃ events, (call.perform session).2 = session.reportAll events) ∧
        (call.unsupported? = none → ∃ url, (call.perform session).1 =
          .error (.configuration (.foreignUrl client.service url))) ∧
        ∀ reason, call.unsupported? = some reason →
          (call.perform session).1 = .error (.other ⟨reason.message, []⟩) := by
  have hbase := parse_of_validateBaseUri (Client.validateBaseUri_of_build hbuild)
  have hsession : StaysOnOrigin client
      ((Session.start client).performAll (calls.map ScopedCall.operation)) :=
    StaysOnOrigin.performAll hbase ⟨.refl client, fun request hrequest ↦ by cases hrequest⟩ calls
  refine ⟨hsession.sent, fun call habsolute hforeign ↦ ?_⟩
  rw [hsession.setup.service]
  exact call.perform_of_foreign habsolute
    fun hshares ↦ hforeign (hshares.of_baseUri_eq hsession.setup.baseUri.symm)

/-- A client of a service on a port of the local machine. -/
def loopbackParts : ClientParts where
  service := "products"
  baseUri := "http://[::1]:8080/api?"
  settings := ClientSettings.standard
  transport := some fun _ _ ↦ .ok ⟨StatusCode.ofNat? 200, Document.empty⟩
  tokenProvider := some (TokenProvider.inTurn (.ok ⟨"tok-1"⟩) [])
  resolvers := ⟨[]⟩
  context := RequestContext.empty

/-- Calls with paths that look like ways to another host or port. -/
def strayCalls : List ScopedCall :=
  [.get "@[::2]/v1", .post "\\\\[::2]:8080" (.object []), .fetchByQuery "//[::2]/v1" (.pairs [])]

theorem not_sharesOrigin_of_build_loopback {client : Client}
    (hbuild : Client.build loopbackParts = .ok client) :
    ¬ client.SharesOrigin "http://[::1]:8081/api" := by
  obtain rfl := Except.ok.inj hbuild
  rw [Client.sharesOrigin_iff]
  exact Bool.false_ne_true

/-- Where the stray calls lead. -/
def strayUrls : List String :=
  ["http://[::1]:8080/api?/@[::2]/v1", "http://[::1]:8080/api?/\\\\[::2]:8080",
    "http://[::1]:8080/api?/[::2]/v1"]

theorem exists_parse_of_mem_strayUrls {url : String} (hurl : url ∈ strayUrls) :
    ∃ address, Url.parse url = .ok address := by
  simp only [strayUrls, List.mem_cons, List.not_mem_nil, or_false] at hurl
  rcases hurl with rfl | rfl | rfl <;> exact ⟨_, rfl⟩

theorem ScopedCall.performAll_stays_on_loopback :
    ∃ client, Client.build loopbackParts = .ok client ∧
      (requestsIn ((Session.start client).performAll
        (strayCalls.map ScopedCall.operation)).trace).map Request.url = strayUrls ∧
      (∀ request ∈ requestsIn ((Session.start client).performAll
        (strayCalls.map ScopedCall.operation)).trace, client.SharesOrigin request.url) ∧
      ¬ client.SharesOrigin "http://[::1]:8081/api" ∧
      ∃ url, ((ScopedCall.get "http://[::1]:8081/api").perform
        ((Session.start client).performAll (strayCalls.map ScopedCall.operation))).1 =
          .error (.configuration (.foreignUrl "products" url)) := by
  obtain ⟨hsent, hrefused⟩ := performAll_stays_on_origin loopbackParts _ rfl strayCalls
  have hforeign := not_sharesOrigin_of_build_loopback rfl
  refine ⟨_, rfl, rfl, fun request hrequest ↦ ?_, hforeign,
    (hrefused (.get _) rfl hforeign).2.1 rfl⟩
  have hstray : request.url ∈ strayUrls := List.mem_map_of_mem hrequest
  obtain ⟨address, hparse⟩ := exists_parse_of_mem_strayUrls hstray
  exact hsent request hrequest address hparse

/-- Parameters that are only a text cannot be written, which is found before the path is looked
at: no foreign address is told of. -/
theorem ScopedCall.perform_unwritable_foreign :
    ∃ client, Client.build loopbackParts = .ok client ∧
      ¬ client.SharesOrigin "http://[::1]:8081/api" ∧
      ∀ url, ((ScopedCall.fetchByQuery "http://[::1]:8081/api" (.data (.string "x"))).perform
        (Session.start client)).1 ≠ .error (.configuration (.foreignUrl "products" url)) := by
  refine ⟨_, rfl, not_sharesOrigin_of_build_loopback rfl, fun url hurl ↦ ?_⟩
  cases hurl

end ResourceLookup
