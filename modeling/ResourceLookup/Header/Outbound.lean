import ResourceLookup.Header.Context
import ResourceLookup.Text.Quoted
import ResourceLookup.Text.Search
import ResourceLookup.Text.Sorted

/-!
# Outbound headers

The headers that a client sends with every request (`OutboundHeaders.build`): the media types, the
credentials, the request and trace identifiers of the inbound request with the correlation
identifier taken from the trace, the inbound headers that are passed through, and the headers that a
registered resolver computes. A header that the inbound request already has is passed through
instead of resolved. The media types and the credentials cannot be configured.

The correlation identifier (`correlationId`) is what follows the first `Root=` that is followed by
anything but a semicolon, up to the next semicolon; a trace without one is its own correlation
identifier.

Here it is proved that a correlation identifier has no characters but those of its trace
(`correlationId_subset`), and what one configured name adds to each of the recursions over them
(`HeaderRules.checkNames_cons`, `OutboundHeaders.Draft.withPassthrough_cons`,
`OutboundHeaders.Draft.withContextual_cons`).

A resolver may answer differently each time it is asked, so an answer is given the number of
questions asked before. What is asked and reported on the way is returned in order with the headers.
-/

set_option autoImplicit false
set_option relaxedAutoImplicit false

namespace ResourceLookup

/-- The characters in front of the first semicolon. -/
def upToSemicolon (text : List Char) : List Char :=
  text.takeWhile (· != ';')

/-- What follows the first `Root=` with a value, up to the next semicolon. -/
def traceRoot? : List Char → Option (List Char)
  | [] => none
  | c :: rest =>
    match Text.stripStart? "Root=".toList (c :: rest) with
    | some behind =>
      if (upToSemicolon behind).isEmpty then traceRoot? rest else some (upToSemicolon behind)
    | none => traceRoot? rest

/-- The correlation identifier that a trace carries. -/
def correlationId (trace : String) : String :=
  match traceRoot? trace.toList with
  | some root => String.ofList root
  | none => trace

/-- What is found is a contiguous part of the trace. -/
theorem traceRoot?_isInfix {text root : List Char} (hfound : traceRoot? text = some root) :
    root <:+: text := by
  induction text with
  | nil => cases hfound
  | cons c rest ih =>
    have hlater : traceRoot? rest = some root → root <:+: c :: rest := fun hrest ↦
      List.infix_cons (ih hrest)
    unfold traceRoot? at hfound
    split at hfound
    · next behind hbehind =>
      split at hfound
      · exact hlater hfound
      · obtain rfl : upToSemicolon behind = root := Option.some.inj hfound
        rw [(Text.stripStart?_eq_some_iff _ _ _).mp hbehind]
        exact (List.takeWhile_prefix _).isInfix.trans (List.suffix_append _ _).isInfix
    · exact hlater hfound

/-- A correlation identifier has no characters but those of its trace. -/
theorem correlationId_subset (trace : String) :
    (correlationId trace).toList ⊆ trace.toList := by
  unfold correlationId
  split
  · next root hroot =>
    rw [String.toList_ofList]
    exact (traceRoot?_isInfix hroot).subset
  · exact List.Subset.refl _

/-- Computes the value of a header from the inbound request; the number counts the questions asked
before. -/
abbrev Resolver := Nat → RequestContext → Option String

namespace Resolver

/-- Always gives the same answer. -/
def fixed (answer : Option String) : Resolver :=
  fun _ _ ↦ answer

/-- Computes the value from a header of the inbound request, if it has that header. -/
def ofHeader (name : String) (compute : String → String) : Resolver :=
  fun _ context ↦ (context.header? name).map compute

end Resolver

/-- Resolvers by name. -/
structure ResolverRegistry where
  resolvers : List (String × Resolver)

namespace ResolverRegistry

/-- The resolver of that name; a later one replaces an earlier one. -/
def find? (registry : ResolverRegistry) (name : String) : Option Resolver :=
  (registry.resolvers.reverse.find? fun (other, _) ↦ other == name).map (·.2)

/-- Whether there are no resolvers. -/
def isEmpty (registry : ResolverRegistry) : Bool :=
  registry.resolvers.isEmpty

/-- The registry in diagnostic texts: its names in ascending order. -/
def diagnostic (registry : ResolverRegistry) : String :=
  "HeaderResolverRegistry \x7b resolvers: " ++
    Text.quotedList (Text.sortedSet (registry.resolvers.map (·.1))) ++ " \x7d"

end ResolverRegistry

/-- Which headers are passed through and which are resolved, the latter in ascending order of name
with the name of the resolver. -/
structure HeaderRules where
  passthrough : List String
  contextual : List (String × String)
  deriving DecidableEq

/-- A configured or computed header is no header. -/
structure InvalidHeader where
  name : String
  deriving DecidableEq

/-- The header name in a setting, white space around it left out. -/
def configuredName (text : String) : Except InvalidHeader HeaderName :=
  match HeaderName.parse? (Text.trim text) with
  | some name => .ok name
  | none => .error ⟨text⟩

namespace HeaderRules

/-- The first of the texts that is no header name, if there is one. -/
def checkNames : List String → Except InvalidHeader Unit
  | [] => .ok ()
  | text :: rest =>
    match configuredName text with
    | .error invalid => .error invalid
    | .ok _ => checkNames rest

/-- Whether all configured names are header names. -/
def validate (rules : HeaderRules) : Except InvalidHeader Unit :=
  checkNames (rules.passthrough ++ rules.contextual.map (·.1))

end HeaderRules

/-- What happens while headers are built. -/
inductive HeaderStep where
  | event (event : Event)
  | asked (resolver : String)
  deriving DecidableEq

namespace OutboundHeaders

/-- The media type of JSON. -/
def jsonMediaType : HeaderValue := ⟨Text.octets "application/json", by decide⟩

/-- Headers in the making: the headers so far and what happened so far. -/
structure Draft where
  headers : HeaderMap
  steps : List HeaderStep

/-- The number of questions that the steps ask. -/
def questions (steps : List HeaderStep) : Nat :=
  (steps.filter fun step ↦ match step with
    | .asked _ => true
    | .event _ => false).length

/-- The draft with a header set, if the text is a header value, else with an event. -/
def Draft.insertText (draft : Draft) (name : HeaderName) (text : String) : Draft :=
  match HeaderValue.ofText? text with
  | some value => { draft with headers := HeaderMap.insert name value draft.headers }
  | none => { draft with steps := draft.steps ++ [.event .headerValueDropped] }

/-- The draft with an event. -/
def Draft.report (draft : Draft) (event : Event) : Draft :=
  { draft with steps := draft.steps ++ [.event event] }

/-- The credentials of a token. -/
def bearerValue? (token : String) : Option HeaderValue :=
  HeaderValue.ofText? ("Bearer " ++ token)

/-- The headers of every request: media types and credentials. -/
def fixedHeaders (bearer : HeaderValue) : HeaderMap :=
  [(.accept, jsonMediaType), (.contentType, jsonMediaType), (.authorization, bearer)]

/-- The draft with the identifiers of the inbound request. -/
def Draft.withIdentifiers (draft : Draft) (context : RequestContext) : Draft :=
  let draft := match context.requestId? with
    | some id => draft.insertText .requestId id
    | none => draft
  match context.traceId? with
  | some trace => (draft.insertText .traceId trace).insertText .correlationId (correlationId trace)
  | none => draft

/-- The draft with the inbound headers that are passed through. -/
def Draft.withPassthrough (context : RequestContext) (draft : Draft) :
    List String → Except InvalidHeader Unit × Draft
  | [] => (.ok (), draft)
  | text :: rest =>
    match configuredName text with
    | .error invalid => (.error invalid, draft)
    | .ok name =>
      if name.isReserved then withPassthrough context (draft.report .reservedPassthrough) rest
      else
        match context.valueOf? name with
        | some value => withPassthrough context (draft.insertText name value) rest
        | none => withPassthrough context draft rest

/-- The draft with the answer of a resolver. -/
def Draft.resolve (draft : Draft) (context : RequestContext) (asked : Nat) (name : HeaderName)
    (resolverName : String) (resolver : Resolver) : Draft :=
  let answer := resolver (asked + questions draft.steps) context
  let draft := { draft with steps := draft.steps ++ [.asked resolverName] }
  match answer with
  | some value => draft.insertText name value
  | none => draft

/-- The draft with the headers that are resolved. -/
def Draft.withContextual (context : RequestContext) (registry : ResolverRegistry) (asked : Nat)
    (draft : Draft) : List (String × String) → Except InvalidHeader Unit × Draft
  | [] => (.ok (), draft)
  | (text, resolverName) :: rest =>
    match configuredName text with
    | .error invalid => (.error invalid, draft)
    | .ok name =>
      if name.isReserved then
        withContextual context registry asked (draft.report .reservedContextual) rest
      else
        match context.valueOf? name with
        | some value => withContextual context registry asked (draft.insertText name value) rest
        | none =>
          match registry.find? resolverName with
          | none => withContextual context registry asked (draft.report .resolverMissing) rest
          | some resolver =>
            withContextual context registry asked
              (draft.resolve context asked name resolverName resolver) rest

/-- The headers sent with every request of a client, and what happened on the way. -/
def build (token : String) (context : RequestContext) (rules : HeaderRules)
    (registry : ResolverRegistry) (asked : Nat) :
    Except InvalidHeader HeaderMap × List HeaderStep :=
  match bearerValue? token with
  | none => (.error ⟨HeaderName.authorization.text⟩, [])
  | some bearer =>
    let draft := Draft.withIdentifiers ⟨fixedHeaders bearer, []⟩ context
    match Draft.withPassthrough context draft rules.passthrough with
    | (.error invalid, draft) => (.error invalid, draft.steps)
    | (.ok (), draft) =>
      match Draft.withContextual context registry asked draft rules.contextual with
      | (.error invalid, draft) => (.error invalid, draft.steps)
      | (.ok (), draft) => (.ok draft.headers, draft.steps)

end OutboundHeaders

/-! ### One configured name at a time -/

section Recursion

-- Reading a name is kept folded: unfolded, it would be computed on every text that it is asked for.
attribute [local irreducible] configuredName

theorem HeaderRules.checkNames_cons (text : String) (rest : List String) :
    checkNames (text :: rest) = match configuredName text with
      | .error invalid => .error invalid
      | .ok _ => checkNames rest :=
  rfl

namespace OutboundHeaders.Draft

theorem withPassthrough_cons (context : RequestContext) (draft : Draft) (text : String)
    (rest : List String) :
    withPassthrough context draft (text :: rest) = match configuredName text with
      | .error invalid => (.error invalid, draft)
      | .ok name =>
        if name.isReserved then withPassthrough context (draft.report .reservedPassthrough) rest
        else
          match context.valueOf? name with
          | some value => withPassthrough context (draft.insertText name value) rest
          | none => withPassthrough context draft rest :=
  rfl

theorem withContextual_cons (context : RequestContext) (registry : ResolverRegistry) (asked : Nat)
    (draft : Draft) (text resolverName : String) (rest : List (String × String)) :
    withContextual context registry asked draft ((text, resolverName) :: rest) =
      match configuredName text with
      | .error invalid => (.error invalid, draft)
      | .ok name =>
        if name.isReserved then
          withContextual context registry asked (draft.report .reservedContextual) rest
        else
          match context.valueOf? name with
          | some value => withContextual context registry asked (draft.insertText name value) rest
          | none =>
            match registry.find? resolverName with
            | none => withContextual context registry asked (draft.report .resolverMissing) rest
            | some resolver =>
              withContextual context registry asked
                (draft.resolve context asked name resolverName resolver) rest :=
  rfl

end OutboundHeaders.Draft

end Recursion

end ResourceLookup
