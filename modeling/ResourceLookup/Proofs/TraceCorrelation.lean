import ResourceLookup.Proofs.InboundHeaders
import ResourceLookup.Proofs.LazyCredentials

/-!
# Traces and their correlation identifiers

A trace names its root behind the mark `Root=`. A mark counts if a value starts behind it
(`StartsValue`), and the identifier is the value of the first mark that counts, up to the next
semicolon (`FirstValue`). The search goes through the trace character by character: it ends where
such a mark stands (`traceRoot?_of_marksRoot_nil`) and passes over any other character
(`traceRoot?_cons_of_skipped`), so that it finds the first value if there is one
(`exists_firstValue`) and nothing otherwise (`traceRoot?_eq_none`).

A trace is forwarded if it can be read. The headers then have a correlation identifier too, for it
is a part of the trace and can be sent as well; a text that is configured for its header replaces it
(`OutboundHeaders.outboundText?_correlationId`). `correlationId_firstValue_sent` puts this together,
down to the requests of a client.
-/

set_option autoImplicit false
set_option relaxedAutoImplicit false

namespace ResourceLookup

/-! ### Marks and values -/

/-- The mark `Root=` stands in a text between `before` and `behind`. -/
def MarksRoot (text before behind : List Char) : Prop :=
  text = before ++ ("Root=".toList ++ behind)

/-- A value starts a text: its first character is there and is no semicolon. -/
def StartsValue (text : List Char) : Prop :=
  ∃ c ∈ text.head?, c ≠ ';'

/-- The value of the first mark in a text behind which a value starts. It ends at the next semicolon
or with the text. -/
structure FirstValue (text before value rest : List Char) : Prop where
  marked : MarksRoot text before (value ++ rest)
  skipped : ∀ earlier behind, MarksRoot text earlier behind → earlier.length < before.length →
    ¬ StartsValue behind
  nonempty : value ≠ []
  free : ';' ∉ value
  ended : ∀ c ∈ rest.head?, c = ';'

section Search

variable {c : Char} {text rest before behind value : List Char}

theorem marksRoot_nil_iff :
    MarksRoot text [] behind ↔ Text.stripStart? "Root=".toList text = some behind := by
  rw [Text.stripStart?_eq_some_iff, MarksRoot, List.nil_append]

theorem MarksRoot.cons (c : Char) (hmark : MarksRoot text before behind) :
    MarksRoot (c :: text) (c :: before) behind :=
  congrArg (c :: ·) hmark

/-- A mark that is not at the start of a text stands in what follows its first character. -/
theorem MarksRoot.of_cons (hmark : MarksRoot (c :: text) before behind) (hbefore : before ≠ []) :
    ∃ earlier, before = c :: earlier ∧ MarksRoot text earlier behind := by
  obtain ⟨first, earlier, rfl⟩ := List.exists_cons_of_ne_nil hbefore
  obtain ⟨rfl, hrest⟩ := List.cons.inj hmark
  exact ⟨earlier, rfl, hrest⟩

theorem not_marksRoot_nil (before behind : List Char) : ¬ MarksRoot [] before behind := by
  intro hmark
  obtain ⟨-, hmark⟩ := List.append_eq_nil_iff.mp hmark.symm
  cases hmark

theorem upToSemicolon_eq_nil_iff : upToSemicolon text = [] ↔ ¬ StartsValue text := by
  cases text with
  | nil => simp [upToSemicolon, StartsValue]
  | cons c rest =>
    by_cases hc : c = ';'
    · simp [upToSemicolon, StartsValue, hc]
    · simp [upToSemicolon, StartsValue, hc]

/-- A value at the start of a text is found there. -/
theorem traceRoot?_of_marksRoot_nil (hmark : MarksRoot text [] behind)
    (hvalue : StartsValue behind) : traceRoot? text = some (upToSemicolon behind) := by
  have hfull : (upToSemicolon behind).isEmpty = false := by
    rw [Bool.eq_false_iff, ne_eq, List.isEmpty_iff]
    exact fun hnil ↦ upToSemicolon_eq_nil_iff.mp hnil hvalue
  cases text with
  | nil => exact absurd hmark (not_marksRoot_nil [] behind)
  | cons c rest =>
    rw [traceRoot?, marksRoot_nil_iff.mp hmark]
    dsimp only
    rw [hfull]
    rfl

/-- Where no value starts behind a mark at the start of a text, its first character is passed
over. -/
theorem traceRoot?_cons_of_skipped
    (hskipped : ∀ behind, MarksRoot (c :: rest) [] behind → ¬ StartsValue behind) :
    traceRoot? (c :: rest) = traceRoot? rest := by
  rw [traceRoot?]
  cases hstart : Text.stripStart? "Root=".toList (c :: rest) with
  | none => rfl
  | some behind =>
    dsimp only
    rw [upToSemicolon_eq_nil_iff.mpr (hskipped behind (marksRoot_nil_iff.mpr hstart))]
    rfl

/-- A text in which no value starts behind a mark has no root. -/
theorem traceRoot?_eq_none
    (hnone : ∀ before behind, MarksRoot text before behind → ¬ StartsValue behind) :
    traceRoot? text = none := by
  induction text with
  | nil => rfl
  | cons c rest ih =>
    rw [traceRoot?_cons_of_skipped (hnone [])]
    exact ih fun before behind hmark ↦ hnone (c :: before) behind (hmark.cons c)

/-- Behind a mark at the start of a text, the first value is what stands before the next
semicolon. -/
theorem firstValue_of_marksRoot_nil (hmark : MarksRoot text [] behind)
    (hvalue : StartsValue behind) :
    FirstValue text [] (upToSemicolon behind) (behind.dropWhile (· != ';')) where
  marked := by rwa [upToSemicolon, List.takeWhile_append_dropWhile]
  skipped earlier _ _ hearlier := absurd hearlier (Nat.not_lt_zero earlier.length)
  nonempty := fun hnil ↦ upToSemicolon_eq_nil_iff.mp hnil hvalue
  free := fun hmem ↦ by
    have hfree := List.all_eq_true.mp List.all_takeWhile ';' hmem
    cases hfree
  ended c hc := by
    have hhead := List.head?_dropWhile_not (· != ';') behind
    rw [Option.mem_def.mp hc] at hhead
    simpa using hhead

/-- The first value behind a character at which no mark with a value starts is the first value with
it. -/
theorem FirstValue.cons {after : List Char} (hfirst : FirstValue rest before value after)
    (hskipped : ∀ behind, MarksRoot (c :: rest) [] behind → ¬ StartsValue behind) :
    FirstValue (c :: rest) (c :: before) value after where
  marked := hfirst.marked.cons c
  skipped earlier behind hmark hearlier := by
    -- A mark in front is the one that is skipped here; the others stand behind the character.
    by_cases hempty : earlier = []
    · subst hempty
      exact hskipped behind hmark
    · obtain ⟨later, rfl, hrest⟩ := hmark.of_cons hempty
      exact hfirst.skipped later behind hrest (Nat.lt_of_succ_lt_succ hearlier)
  nonempty := hfirst.nonempty
  free := hfirst.free
  ended := hfirst.ended

/-- A text in which a value starts behind some mark has a root, the first such value. -/
theorem exists_firstValue (hmark : MarksRoot text before behind) (hvalue : StartsValue behind) :
    ∃ before value rest, FirstValue text before value rest ∧ traceRoot? text = some value := by
  induction text generalizing before with
  | nil => exact absurd hmark (not_marksRoot_nil before behind)
  | cons c rest ih =>
    by_cases hhere : ∃ behind, MarksRoot (c :: rest) [] behind ∧ StartsValue behind
    · obtain ⟨behind, hmark, hvalue⟩ := hhere
      exact ⟨[], _, _, firstValue_of_marksRoot_nil hmark hvalue,
        traceRoot?_of_marksRoot_nil hmark hvalue⟩
    · have hskipped : ∀ behind, MarksRoot (c :: rest) [] behind → ¬ StartsValue behind :=
        fun behind hmark hvalue ↦ hhere ⟨behind, hmark, hvalue⟩
      have hbefore : before ≠ [] := by
        rintro rfl
        exact hskipped behind hmark hvalue
      obtain ⟨earlier, -, hrest⟩ := hmark.of_cons hbefore
      obtain ⟨before, value, after, hfirst, hfound⟩ := ih hrest
      exact ⟨c :: before, value, after, hfirst.cons hskipped,
        (traceRoot?_cons_of_skipped hskipped).trans hfound⟩

end Search

/-! ### Headers that were built -/

namespace OutboundHeaders

variable {token trace : String} {context : RequestContext} {rules : HeaderRules}
  {registry : ResolverRegistry} {asked : Nat} {headers : HeaderMap} {name : HeaderName}

namespace Draft

/-- Passing headers through fails exactly where a name among them is invalid. -/
theorem withPassthrough_fst (context : RequestContext) (draft : Draft) (texts : List String) :
    (withPassthrough context draft texts).1 = HeaderRules.checkNames texts := by
  induction texts generalizing draft with
  | nil => rfl
  | cons text rest ih =>
    cases hname : configuredName text with
    | error invalid => rw [withPassthrough_cons, HeaderRules.checkNames_cons, hname]
    | ok name =>
      rw [withPassthrough_of_ok hname, ih, HeaderRules.checkNames_cons, hname]

/-- Resolving headers fails exactly where a name among them is invalid. -/
theorem withContextual_fst (context : RequestContext) (registry : ResolverRegistry) (asked : Nat)
    (draft : Draft) (contextual : List (String × String)) :
    (withContextual context registry asked draft contextual).1 =
      HeaderRules.checkNames (contextual.map (·.1)) := by
  induction contextual generalizing draft with
  | nil => rfl
  | cons entry rest ih =>
    obtain ⟨text, resolverName⟩ := entry
    rw [List.map_cons, HeaderRules.checkNames_cons]
    cases hname : configuredName text with
    | error invalid => rw [withContextual_cons, hname]
    | ok name => rw [withContextual_of_ok hname, ih]

end Draft

/-- Headers are built from valid names and a token that can be sent only. -/
theorem valid_of_build (hbuild : (build token context rules registry asked).1 = .ok headers) :
    rules.validate = .ok () ∧ HeaderValue.isText ("Bearer " ++ token) = true := by
  by_cases hbearer : HeaderValue.isText ("Bearer " ++ token) = true
  · refine ⟨HeaderRules.checkNames_append_eq_ok_iff.mpr ?_, hbearer⟩
    rw [build, bearerValue?, HeaderValue.ofText?_of_isText hbearer] at hbuild
    dsimp only at hbuild
    split at hbuild
    · cases hbuild
    · next passed hpassed =>
      split at hbuild
      · cases hbuild
      · next resolved hresolved =>
        exact ⟨(Draft.withPassthrough_fst context _ _).symm.trans (congrArg Prod.fst hpassed),
          (Draft.withContextual_fst context registry asked _ _).symm.trans
            (congrArg Prod.fst hresolved)⟩
  · rw [build_of_not_isText hbearer] at hbuild
    cases hbuild

/-- Headers that were built carry the texts of the layers. -/
theorem octets?_of_build (hbuild : (build token context rules registry asked).1 = .ok headers)
    (name : HeaderName) :
    HeaderMap.octets? name headers =
      (outboundText? token context rules registry asked name).map Text.octets := by
  obtain ⟨hrules, hbearer⟩ := valid_of_build hbuild
  obtain ⟨others, steps, hsame, -, hoctets, -⟩ :=
    build_of_isText hrules hbearer context registry asked
  rw [hsame] at hbuild
  rw [← Except.ok.inj hbuild]
  exact hoctets name

/-- The text that is configured to be sent for a name: that of the inbound request, else the one
resolved. -/
def configuredText? (context : RequestContext) (rules : HeaderRules) (registry : ResolverRegistry)
    (asked : Nat) (name : HeaderName) : Option String :=
  (inboundText? context (rules.passthrough ++ rules.contextual.map (·.1)) name).or
    (contextualText? context registry asked rules.contextual name)

/-- What is sent for a header that is not reserved is configured, or an identifier of the inbound
request. -/
theorem outboundText?_of_not_isReserved (hfree : ¬ name.isReserved = true) :
    outboundText? token context rules registry asked name =
      (configuredText? context rules registry asked name).or (identifierText? context name) := by
  rw [outboundText?, fixedText?_of_not_isReserved hfree, Option.none_or, configuredText?,
    Option.or_assoc]

/-- A trace that is read is sent as it was received, for only the same text can be configured. -/
theorem outboundText?_traceId (hread : context.traceId? = some trace) :
    outboundText? token context rules registry asked .traceId = some trace := by
  have hresolved : contextualText? context registry asked rules.contextual .traceId = none := by
    refine contextualText?_eq_none (.inr ?_) asked rules.contextual
    rw [show context.valueOf? .traceId = some trace from hread]
    exact Option.some_ne_none trace
  have hidentifier : identifierText? context .traceId = some trace := hread
  rw [outboundText?_of_not_isReserved (by decide), configuredText?, hresolved, Option.or_none,
    hidentifier]
  cases hinbound : inboundText? context (rules.passthrough ++ rules.contextual.map (·.1)) .traceId
    with
  | none => rfl
  | some text => exact (valueOf?_of_inboundText? hinbound).symm.trans hread

/-- With a trace that is read, a correlation identifier is sent: the configured one, else that of
the trace. -/
theorem outboundText?_correlationId (hread : context.traceId? = some trace) :
    outboundText? token context rules registry asked .correlationId =
      some ((configuredText? context rules registry asked .correlationId).getD
        (correlationId trace)) := by
  have hidentifier : identifierText? context .correlationId = some (correlationId trace) :=
    congrArg (Option.map correlationId) hread
  rw [outboundText?_of_not_isReserved (by decide), hidentifier]
  cases configuredText? context rules registry asked .correlationId <;> rfl

/-- A trace that is not read is not forwarded: only a resolver can give its header a text. -/
theorem outboundText?_traceId_of_none (hnone : context.traceId? = none) :
    outboundText? token context rules registry asked .traceId =
      contextualText? context registry asked rules.contextual .traceId := by
  have hidentifier : identifierText? context .traceId = none := hnone
  rw [outboundText?_of_valueOf?_eq_none (by decide) hnone, hidentifier, Option.or_none]

/-- Headers carry a trace as it was received, and an identifier that correlates it. -/
structure CarriesTrace (headers : HeaderMap) (trace identifier : String) : Prop where
  trace : HeaderMap.octets? .traceId headers = some (Text.octets trace)
  identifier : HeaderMap.octets? .correlationId headers = some (Text.octets identifier)

theorem carriesTrace_of_build
    (hbuild : (build token context rules registry asked).1 = .ok headers)
    (hread : context.traceId? = some trace) :
    CarriesTrace headers trace
      ((configuredText? context rules registry asked .correlationId).getD
        (correlationId trace)) where
  trace := by
    rw [octets?_of_build hbuild, outboundText?_traceId hread]
    rfl
  identifier := by
    rw [octets?_of_build hbuild, outboundText?_correlationId hread]
    rfl

end OutboundHeaders

open OutboundHeaders

/-- Every request of a client that serves a request with a trace carries it, and an identifier that
correlates it. Assumes: a client as it is built. -/
theorem Session.carriesTrace_of_mem_requestsIn {parts : ClientParts} {client : Client}
    {trace : String} {operations : List Operation} {request : Request}
    (hbuild : Client.build parts = .ok client) (hread : client.context.traceId? = some trace)
    (hsent : request ∈ requestsIn ((Session.start client).performAll operations).trace) :
    ∃ identifier, CarriesTrace request.headers trace identifier := by
  obtain ⟨before, rest, htrace⟩ := List.append_of_mem (mem_requestsIn.mp hsent)
  obtain ⟨-, number, token, earlier, steps, -, -, hbuilt, -⟩ :=
    ((LoadsOnce.start hbuild).performAll operations).carried before request rest htrace
  exact ⟨_, carriesTrace_of_build (congrArg Prod.fst hbuilt) hread⟩

/-! ### The correlation identifier -/

/-- What the correlation identifier of a trace is, and that it is sent. Where a value starts behind
some `Root=`, the identifier is the first such value, up to the next semicolon; otherwise it is the
whole trace. Headers that are built from an inbound request with this trace forward it, with this
identifier unless another text is configured for it; where no trace can be read, none is forwarded,
and its header has what a resolver answers, if anything. So every request of a client that serves
such a request carries the trace and an identifier. -/
theorem correlationId_firstValue_sent (trace : String) :
    ((∃ before behind, MarksRoot trace.toList before behind ∧ StartsValue behind) →
        ∃ before value rest, FirstValue trace.toList before value rest ∧
          correlationId trace = String.ofList value) ∧
      ((∀ before behind, MarksRoot trace.toList before behind → ¬ StartsValue behind) →
        correlationId trace = trace) ∧
      (∀ token context rules registry asked headers,
        (build token context rules registry asked).1 = .ok headers →
          (context.traceId? = some trace → CarriesTrace headers trace
            ((configuredText? context rules registry asked .correlationId).getD
              (correlationId trace))) ∧
          (context.traceId? = none → HeaderMap.octets? .traceId headers =
            (contextualText? context registry asked rules.contextual .traceId).map
              Text.octets)) ∧
      ∀ parts client, Client.build parts = .ok client → client.context.traceId? = some trace →
        ∀ operations, ∀ request ∈ Session.requestsIn
            ((Session.start client).performAll operations).trace,
          ∃ identifier, CarriesTrace request.headers trace identifier := by
  refine ⟨?_, fun hnone ↦ ?_, fun token context rules registry asked headers hbuild ↦
    ⟨carriesTrace_of_build hbuild, fun hunread ↦ ?_⟩,
    fun parts client hbuild hread operations request hsent ↦
      Session.carriesTrace_of_mem_requestsIn hbuild hread hsent⟩
  · rintro ⟨before, behind, hmark, hvalue⟩
    obtain ⟨before, value, rest, hfirst, hfound⟩ := exists_firstValue hmark hvalue
    exact ⟨before, value, rest, hfirst, by rw [correlationId, hfound]⟩
  · rw [correlationId, traceRoot?_eq_none hnone]
  · rw [octets?_of_build hbuild, outboundText?_traceId_of_none hunread]

/-- An inbound request whose trace names its root behind the second mark. -/
def secondRootContext : RequestContext :=
  RequestContext.ofFields
    [(.traceId, ⟨Text.octets "Root=;Self=1;Root=r-2;Parent=p", by decide⟩)]

theorem correlationId_firstValue_sent_second :
    (∃ before value rest,
        FirstValue "Root=;Self=1;Root=r-2;Parent=p".toList before value rest ∧
          correlationId "Root=;Self=1;Root=r-2;Parent=p" = String.ofList value) ∧
      ∃ headers, (build "tok-1" secondRootContext spelledRules userRegistry 0).1 = .ok headers ∧
        CarriesTrace headers "Root=;Self=1;Root=r-2;Parent=p" "r-2" := by
  obtain ⟨hroot, -, hbuilt, -⟩ := correlationId_firstValue_sent "Root=;Self=1;Root=r-2;Parent=p"
  have hvalue : StartsValue "r-2;Parent=p".toList := ⟨'r', rfl, by decide⟩
  obtain ⟨headers, hheaders⟩ : ∃ headers,
      (build "tok-1" secondRootContext spelledRules userRegistry 0).1 = .ok headers := ⟨_, rfl⟩
  have hcarries := (hbuilt "tok-1" secondRootContext spelledRules userRegistry 0 headers
    hheaders).1 rfl
  have hidentifier : (configuredText? secondRootContext spelledRules userRegistry 0
      .correlationId).getD (correlationId "Root=;Self=1;Root=r-2;Parent=p") = "r-2" := by rfl
  rw [hidentifier] at hcarries
  exact ⟨hroot ⟨"Root=;Self=1;".toList, "r-2;Parent=p".toList, rfl, hvalue⟩, headers, hheaders,
    hcarries⟩

end ResourceLookup
