import ResourceLookup.Header.Outbound

/-!
# What the outbound headers are

Six sources write into one map, one after the other. Here each of them is a layer, a function that
gives some names a text: the fixed headers (`fixedText?`), the inbound headers that are passed
through (`inboundText?`), the answers of resolvers (`resolvedText?`) and the identifiers of the
inbound request (`identifierText?`). A draft is extended by a layer if the layer has its texts laid
over the headers of the draft (`Draft.Extends`). Every stage of the construction extends the draft
by the layer of its source (`Draft.extends_withIdentifiers`, `Draft.extends_withPassthrough`,
`Draft.extends_withContextual`), and layers compose (`Draft.Extends.trans`).

`OutboundHeaders.build_carries_layers` puts them together: the map has one value for each name, and
this is the text of the first of the four layers that has one for the name.

The questions to resolvers that a list of contextual headers asks are told apart from the headers
(`questionsOf`), and so is what is answered to each (`resolutions`). Where the list ascends, the
last answer for a name is the one whose entry is the greatest (`resolvedText?_eq_some_iff`).
-/

set_option autoImplicit false
set_option relaxedAutoImplicit false

namespace ResourceLookup

/-! ### Configured names -/

/-- Whether one of the texts configures a name, in any case and with white space around it. -/
def configures (texts : List String) (name : HeaderName) : Bool :=
  texts.any fun text ↦ HeaderName.parse? (Text.trim text) = some name

theorem configures_append (first second : List String) (name : HeaderName) :
    configures (first ++ second) name = (configures first name || configures second name) :=
  List.any_append

/-- A text configures the name that it is read as, and no other. -/
theorem configures_cons {text : String} {name : HeaderName}
    (hname : HeaderName.parse? (Text.trim text) = some name) (rest : List String)
    (other : HeaderName) :
    configures (text :: rest) other = (decide (name = other) || configures rest other) := by
  rw [configures, List.any_cons, hname]
  simp only [Option.some.injEq]
  rfl

theorem configuredName_eq_ok_iff {text : String} {name : HeaderName} :
    configuredName text = .ok name ↔ HeaderName.parse? (Text.trim text) = some name := by
  unfold configuredName
  cases HeaderName.parse? (Text.trim text) with
  | none => exact ⟨nofun, nofun⟩
  | some parsed =>
    constructor
    · exact fun hok ↦ congrArg some (Except.ok.inj hok)
    · exact fun hsome ↦ congrArg Except.ok (Option.some.inj hsome)

namespace HeaderRules

theorem checkNames_cons_eq_ok_iff {text : String} {rest : List String} :
    checkNames (text :: rest) = .ok () ↔
      (∃ name, configuredName text = .ok name) ∧ checkNames rest = .ok () := by
  rw [checkNames_cons]
  cases configuredName text with
  | error invalid => simp
  | ok name => simp

theorem checkNames_append_eq_ok_iff {first second : List String} :
    checkNames (first ++ second) = .ok () ↔
      checkNames first = .ok () ∧ checkNames second = .ok () := by
  induction first with
  | nil => exact (and_iff_right rfl).symm
  | cons text rest ih =>
    rw [List.cons_append, checkNames_cons_eq_ok_iff, checkNames_cons_eq_ok_iff, ih, and_assoc]

end HeaderRules

namespace OutboundHeaders

/-! ### Layers -/

/-- The headers that no configuration changes. -/
def fixedText? (token : String) (name : HeaderName) : Option String :=
  if name = .accept ∨ name = .contentType then some "application/json"
  else if name = .authorization then some ("Bearer " ++ token)
  else none

/-- The identifiers of the inbound request, with the one that correlates its trace. -/
def identifierText? (context : RequestContext) (name : HeaderName) : Option String :=
  if name = .requestId then context.requestId?
  else if name = .traceId then context.traceId?
  else if name = .correlationId then context.traceId?.map correlationId
  else none

/-- The inbound headers that the texts configure to be passed through. -/
def inboundText? (context : RequestContext) (texts : List String) (name : HeaderName) :
    Option String :=
  if configures texts name && !name.isReserved then context.valueOf? name else none

/-- A question to a resolver, from an entry with the text `text`. -/
structure Question where
  text : String
  name : HeaderName
  resolverName : String
  resolver : Resolver

/-- The question that an entry asks: the name in it is not reserved, the inbound request does not
have the header, and there is a resolver of that name. -/
def question? (context : RequestContext) (registry : ResolverRegistry)
    (entry : String × String) : Option Question :=
  (HeaderName.parse? (Text.trim entry.1)).bind fun name ↦
    if name.isReserved || (context.valueOf? name).isSome then none
    else (registry.find? entry.2).map fun resolver ↦ ⟨entry.1, name, entry.2, resolver⟩

/-- The questions that entries ask, in order. -/
def questionsOf (context : RequestContext) (registry : ResolverRegistry)
    (contextual : List (String × String)) : List Question :=
  contextual.filterMap (question? context registry)

/-- What became of an entry that asks a question: the text that can be sent, if that was the
answer. -/
structure Resolution where
  text : String
  name : HeaderName
  answer : Option String

/-- What a resolver answers that is asked when so many questions were asked before. -/
def Question.resolution (context : RequestContext) (question : Question) (number : Nat) :
    Resolution :=
  ⟨question.text, question.name, (question.resolver number context).filter HeaderValue.isText⟩

/-- What becomes of questions, the first of which is asked when so many were asked before. -/
def resolutions (context : RequestContext) (questions : List Question) (asked : Nat) :
    List Resolution :=
  (questions.zipIdx asked).map fun (question, number) ↦ question.resolution context number

/-- The last answer for a name. -/
def resolvedText? (resolutions : List Resolution) (name : HeaderName) : Option String :=
  resolutions.reverse.findSome? fun resolution ↦
    if resolution.name = name then resolution.answer else none

/-- The headers that are resolved. -/
def contextualText? (context : RequestContext) (registry : ResolverRegistry) (asked : Nat)
    (contextual : List (String × String)) (name : HeaderName) : Option String :=
  resolvedText? (resolutions context (questionsOf context registry contextual) asked) name

/-- The text that is sent for a name: a fixed one, else that of the inbound request if the name is
configured, else the last one resolved, else an identifier of the inbound request. -/
def outboundText? (token : String) (context : RequestContext) (rules : HeaderRules)
    (registry : ResolverRegistry) (asked : Nat) (name : HeaderName) : Option String :=
  (fixedText? token name).or <|
    (inboundText? context (rules.passthrough ++ rules.contextual.map (·.1)) name).or <|
      (contextualText? context registry asked rules.contextual name).or
        (identifierText? context name)

/-- The resolvers that steps ask, in order. -/
def askedIn (steps : List HeaderStep) : List String :=
  steps.filterMap fun step ↦ match step with
    | .asked resolver => some resolver
    | .event _ => none

theorem askedIn_append (first second : List HeaderStep) :
    askedIn (first ++ second) = askedIn first ++ askedIn second :=
  List.filterMap_append

theorem questions_eq (steps : List HeaderStep) : questions steps = (askedIn steps).length := by
  induction steps with
  | nil => rfl
  | cons step rest ih =>
    cases step with
    | event event => exact ih
    | asked resolver => exact congrArg (· + 1) ih

/-! ### What is resolved -/

section Resolving

variable {context : RequestContext} {registry : ResolverRegistry} {name : HeaderName}

theorem resolvedText?_append (first second : List Resolution) (name : HeaderName) :
    resolvedText? (first ++ second) name =
      (resolvedText? second name).or (resolvedText? first name) := by
  rw [resolvedText?, List.reverse_append, List.findSome?_append]
  rfl

theorem resolvedText?_singleton (resolution : Resolution) (name : HeaderName) :
    resolvedText? [resolution] name =
      if resolution.name = name then resolution.answer else none := by
  rw [resolvedText?, List.reverse_singleton, List.findSome?_singleton]

theorem resolvedText?_cons (resolution : Resolution) (rest : List Resolution) (name : HeaderName) :
    resolvedText? (resolution :: rest) name =
      (resolvedText? rest name).or
        (if resolution.name = name then resolution.answer else none) := by
  rw [← resolvedText?_singleton]
  exact resolvedText?_append [resolution] rest name

theorem resolvedText?_eq_none_iff {resolutions : List Resolution} :
    resolvedText? resolutions name = none ↔
      ∀ resolution ∈ resolutions, resolution.name = name → resolution.answer = none := by
  simp only [resolvedText?, List.findSome?_eq_none_iff, List.mem_reverse, ite_eq_right_iff]

/-- The last answer for a name is the one whose entry is the greatest. Assumes: the entries
ascend. -/
theorem resolvedText?_eq_some_iff {resolutions : List Resolution} {answer : String}
    (hascends : (resolutions.map (·.text)).Pairwise (· < ·)) :
    resolvedText? resolutions name = some answer ↔
      ∃ resolution ∈ resolutions, resolution.name = name ∧ resolution.answer = some answer ∧
        ∀ other ∈ resolutions, other.name = name → other.answer ≠ none →
          other.text ≤ resolution.text := by
  induction resolutions generalizing answer with
  | nil => simp [resolvedText?]
  | cons head rest ih =>
    obtain ⟨hhead, hrest⟩ := List.pairwise_cons.mp hascends
    have hbelow : ∀ other ∈ rest, head.text < other.text := fun other hother ↦
      hhead other.text (List.mem_map_of_mem hother)
    rw [resolvedText?_cons]
    cases hlast : resolvedText? rest name with
    | none =>
      have hsilent := resolvedText?_eq_none_iff.mp hlast
      rw [Option.none_or]
      constructor
      · intro hanswer
        obtain ⟨hname, hanswer⟩ := (Option.ite_none_right_eq_some).mp hanswer
        refine ⟨head, List.mem_cons_self, hname, hanswer, fun other hother hsame hsome ↦ ?_⟩
        rcases List.mem_cons.mp hother with rfl | hother
        · exact String.le_refl _
        · exact absurd (hsilent other hother hsame) hsome
      · rintro ⟨resolution, hmem, hname, hanswer, -⟩
        rcases List.mem_cons.mp hmem with rfl | hmem
        · rw [if_pos hname, hanswer]
        · cases (hsilent resolution hmem hname).symm.trans hanswer
    | some last =>
      rw [Option.some_or, ← hlast]
      constructor
      · intro hanswer
        obtain ⟨resolution, hmem, hname, hsent, hgreatest⟩ := (ih hrest).mp hanswer
        refine ⟨resolution, List.mem_cons_of_mem _ hmem, hname, hsent,
          fun other hother hsame hsome ↦ ?_⟩
        rcases List.mem_cons.mp hother with rfl | hother
        · exact String.not_lt.mp (String.lt_asymm (hbelow resolution hmem))
        · exact hgreatest other hother hsame hsome
      · rintro ⟨resolution, hmem, hname, hanswer, hgreatest⟩
        rcases List.mem_cons.mp hmem with rfl | hmem
        · -- An entry behind the head has an answer, so that the head is not the greatest.
          obtain ⟨later, hlater, hsame, hsent, -⟩ := (ih hrest).mp hlast
          have hle := hgreatest later (List.mem_cons_of_mem _ hlater) hsame
            (by rw [hsent]; exact Option.some_ne_none last)
          exact absurd (hbelow later hlater) (String.not_lt.mpr hle)
        · exact (ih hrest).mpr ⟨resolution, hmem, hname, hanswer, fun other hother ↦
            hgreatest other (List.mem_cons_of_mem _ hother)⟩

/-- Questions are about names that are not reserved and that the inbound request does not have. -/
theorem of_question?_eq_some {entry : String × String} {question : Question}
    (hasks : question? context registry entry = some question) :
    question.name.isReserved = false ∧ context.valueOf? question.name = none := by
  obtain ⟨name, -, hasks⟩ := Option.bind_eq_some_iff.mp hasks
  by_cases hfree : (name.isReserved || (context.valueOf? name).isSome) = true
  · rw [if_pos hfree] at hasks
    cases hasks
  · rw [if_neg hfree, Option.map_eq_some_iff] at hasks
    obtain ⟨resolver, -, rfl⟩ := hasks
    rw [Bool.or_eq_true, not_or, Bool.not_eq_true, Bool.not_eq_true, Option.isSome_eq_false_iff,
      Option.isNone_iff_eq_none] at hfree
    exact hfree

theorem questionsOf_append (context : RequestContext) (registry : ResolverRegistry)
    (first second : List (String × String)) :
    questionsOf context registry (first ++ second) =
      questionsOf context registry first ++ questionsOf context registry second :=
  List.filterMap_append

/-- The question of a single entry whose name is read. -/
theorem questionsOf_singleton {text resolverName : String}
    (hname : HeaderName.parse? (Text.trim text) = some name) :
    questionsOf context registry [(text, resolverName)] =
      (if name.isReserved || (context.valueOf? name).isSome then none
        else (registry.find? resolverName).map fun resolver ↦
          (⟨text, name, resolverName, resolver⟩ : Question)).toList := by
  rw [questionsOf, List.filterMap_cons, question?, hname, Option.bind_some]
  split
  · next hnone => rw [hnone]; rfl
  · next question hsome => rw [hsome]; rfl

theorem resolutions_append (context : RequestContext) (first second : List Question)
    (asked : Nat) :
    resolutions context (first ++ second) asked =
      resolutions context first asked ++ resolutions context second (asked + first.length) := by
  rw [resolutions, List.zipIdx_append, List.map_append]
  rfl

/-- What becomes of an entry keeps the name that the question is about. -/
theorem exists_question_of_mem {questions : List Question} {asked : Nat} {resolution : Resolution}
    (hmem : resolution ∈ resolutions context questions asked) :
    ∃ question ∈ questions, resolution.name = question.name := by
  obtain ⟨⟨question, number⟩, hquestion, rfl⟩ := List.mem_map.mp hmem
  exact ⟨question, List.fst_mem_of_mem_zipIdx hquestion, rfl⟩

theorem map_text_resolutions (context : RequestContext) (questions : List Question)
    (asked : Nat) :
    (resolutions context questions asked).map (·.text) = questions.map (·.text) := by
  have hfirst : (questions.zipIdx asked).map (·.1) = questions :=
    List.zipIdx_map_fst asked questions
  rw [resolutions, List.map_map]
  conv => rhs; rw [← hfirst, List.map_map]
  rfl

/-- Questions come in the order of their entries. -/
theorem map_text_questionsOf_sublist (context : RequestContext) (registry : ResolverRegistry)
    (contextual : List (String × String)) :
    ((questionsOf context registry contextual).map (·.text)).Sublist (contextual.map (·.1)) := by
  induction contextual with
  | nil => exact List.Sublist.refl []
  | cons entry rest ih =>
    rw [questionsOf, List.filterMap_cons]
    split
    · exact ih.cons _
    · next question hasks =>
      obtain ⟨name, -, hasks⟩ := Option.bind_eq_some_iff.mp hasks
      have htext : question.text = entry.1 := by
        split at hasks
        · cases hasks
        · obtain ⟨resolver, -, rfl⟩ := Option.map_eq_some_iff.mp hasks
          rfl
      rw [List.map_cons, List.map_cons, htext]
      exact ih.cons_cons _

theorem contextualText?_append (context : RequestContext) (registry : ResolverRegistry)
    (asked : Nat) (first second : List (String × String)) (name : HeaderName) :
    contextualText? context registry asked (first ++ second) name =
      (contextualText? context registry (asked + (questionsOf context registry first).length)
        second name).or (contextualText? context registry asked first name) := by
  simp only [contextualText?, questionsOf_append, resolutions_append, resolvedText?_append]

/-- Nothing is resolved for a reserved header, or for one that the inbound request has. -/
theorem contextualText?_eq_none
    (hsettled : name.isReserved = true ∨ context.valueOf? name ≠ none) (asked : Nat)
    (contextual : List (String × String)) :
    contextualText? context registry asked contextual name = none := by
  rw [contextualText?, resolvedText?_eq_none_iff]
  intro resolution hmem hname
  obtain ⟨question, hquestion, hsame⟩ := exists_question_of_mem hmem
  obtain ⟨entry, -, hasks⟩ := List.mem_filterMap.mp hquestion
  obtain ⟨hfree, habsent⟩ := of_question?_eq_some hasks
  rw [← hsame, hname] at hfree habsent
  rcases hsettled with hreserved | hinbound
  · cases hreserved.symm.trans hfree
  · exact absurd habsent hinbound

/-- What two lists pass through is laid over each other in either order. -/
theorem inboundText?_append (context : RequestContext) (first second : List String)
    (name : HeaderName) :
    inboundText? context (first ++ second) name =
      (inboundText? context second name).or (inboundText? context first name) := by
  simp only [inboundText?, configures_append]
  cases configures first name <;> cases configures second name <;> cases name.isReserved <;>
    cases context.valueOf? name <;> rfl

theorem valueOf?_of_inboundText? {texts : List String} {text : String}
    (hinbound : inboundText? context texts name = some text) :
    context.valueOf? name = some text :=
  (Option.ite_none_right_eq_some.mp hinbound).2

/-- Between layers of inbound headers, those that are resolved do not matter, for they are
others. -/
theorem inboundText?_or_contextualText? (context : RequestContext) (registry : ResolverRegistry)
    (texts others : List String) (asked : Nat) (contextual : List (String × String))
    (below : Option String) :
    ((inboundText? context texts name).or
        (contextualText? context registry asked contextual name)).or
          ((inboundText? context others name).or below) =
      ((inboundText? context texts name).or (inboundText? context others name)).or
        ((contextualText? context registry asked contextual name).or below) := by
  cases hinbound : inboundText? context others name with
  | none => rw [Option.none_or, Option.or_none, Option.or_assoc]
  | some text =>
    have hread : context.valueOf? name ≠ none := by
      rw [valueOf?_of_inboundText? hinbound]
      exact Option.some_ne_none text
    rw [contextualText?_eq_none (.inr hread), Option.or_none, Option.none_or, Option.some_or]
    cases inboundText? context texts name <;> rfl

end Resolving

/-! ### Drafts and layers -/

namespace Draft

/-- A draft is extended by a layer, whose texts are laid over its headers, and by questions to
resolvers. -/
structure Extends (before after : Draft) (layer : HeaderName → Option String)
    (asked : List String) : Prop where
  octets : ∀ name, HeaderMap.octets? name after.headers =
    ((layer name).map Text.octets).or (HeaderMap.octets? name before.headers)
  nodup : (HeaderMap.names before.headers).Nodup → (HeaderMap.names after.headers).Nodup
  asked : askedIn after.steps = askedIn before.steps ++ asked

/-- The layer that has at most one text. -/
def onlyText? (name : HeaderName) (text : Option String) (other : HeaderName) : Option String :=
  if name = other then text else none

variable {before middle after : Draft} {layer upper : HeaderName → Option String}
  {asked further : List String}

theorem Extends.congr (hextends : before.Extends after layer asked)
    (hsame : ∀ name, layer name = upper name) : before.Extends after upper asked := by
  rwa [← funext hsame]

/-- Of two layers, the upper one counts where it has a text. -/
theorem Extends.trans (hfirst : before.Extends middle layer asked)
    (hsecond : middle.Extends after upper further) :
    before.Extends after (fun name ↦ (upper name).or (layer name)) (asked ++ further) where
  octets name := by
    rw [hsecond.octets, hfirst.octets]
    cases upper name <;> rfl
  nodup hnodup := hsecond.nodup (hfirst.nodup hnodup)
  asked := by rw [hsecond.asked, hfirst.asked, List.append_assoc]

/-- Questions count on from those asked before. -/
theorem Extends.questions_eq (hextends : before.Extends after layer asked) :
    questions after.steps = questions before.steps + asked.length := by
  rw [OutboundHeaders.questions_eq, OutboundHeaders.questions_eq, hextends.asked,
    List.length_append]

theorem extends_self (draft : Draft) : draft.Extends draft (fun _ ↦ none) [] where
  octets _ := rfl
  nodup hnodup := hnodup
  asked := (List.append_nil _).symm

theorem extends_report (draft : Draft) (event : Event) :
    draft.Extends (draft.report event) (fun _ ↦ none) [] where
  octets _ := rfl
  nodup hnodup := hnodup
  asked := askedIn_append draft.steps [.event event]

/-- A text that can be sent replaces the value of its header; any other changes nothing. -/
theorem extends_insertText (draft : Draft) (name : HeaderName) (text : String) :
    draft.Extends (draft.insertText name text)
      (onlyText? name ((some text).filter HeaderValue.isText)) [] := by
  rw [Option.filter_some]
  by_cases htext : HeaderValue.isText text = true
  · rw [if_pos htext]
    have hinsert : draft.insertText name text =
        { draft with
          headers := HeaderMap.insert name ⟨Text.octets text, htext⟩ draft.headers } := by
      rw [insertText, HeaderValue.ofText?_of_isText htext]
    rw [hinsert]
    refine ⟨fun other ↦ ?_, HeaderMap.nodup_names_insert _ _, (List.append_nil _).symm⟩
    rw [HeaderMap.octets?_insert, onlyText?]
    split <;> rfl
  · rw [if_neg htext]
    have hinsert : draft.insertText name text = draft.report .headerValueDropped := by
      rw [insertText, HeaderValue.ofText?_of_not_isText htext]
      rfl
    rw [hinsert]
    exact (extends_report draft _).congr fun other ↦ (ite_self none).symm

theorem extends_asked (draft : Draft) (resolverName : String) :
    draft.Extends { draft with steps := draft.steps ++ [.asked resolverName] } (fun _ ↦ none)
      [resolverName] where
  octets _ := rfl
  nodup hnodup := hnodup
  asked := askedIn_append draft.steps [.asked resolverName]

/-- The answer of a resolver replaces the value of its header, if it can be sent. -/
theorem extends_resolve (draft : Draft) (context : RequestContext) (asked : Nat)
    (name : HeaderName) (resolverName : String) (resolver : Resolver) :
    draft.Extends (draft.resolve context asked name resolverName resolver)
      (onlyText? name
        ((resolver (asked + questions draft.steps) context).filter HeaderValue.isText))
      [resolverName] := by
  have hasked := draft.extends_asked resolverName
  rw [resolve]
  cases resolver (asked + questions draft.steps) context with
  | none => exact hasked.congr fun other ↦ (ite_self none).symm
  | some answer =>
    exact (hasked.trans (extends_insertText _ name answer)).congr fun other ↦ Option.or_none

/-- What is read from the inbound request replaces the value of its header. -/
theorem extends_insertText_of_valueOf? (draft : Draft) {context : RequestContext}
    {name source : HeaderName} {text : String} (hread : context.valueOf? source = some text) :
    draft.Extends (draft.insertText name text) (onlyText? name (some text)) [] := by
  have hextends := draft.extends_insertText name text
  rwa [Option.filter_some, if_pos (RequestContext.isText_of_valueOf? hread)] at hextends

/-! ### The stages -/

/-- The trace of the inbound request is laid over the headers together with the identifier that
correlates it. -/
theorem extends_trace (draft : Draft) (context : RequestContext) :
    draft.Extends
      (match context.traceId? with
        | some trace =>
          (draft.insertText .traceId trace).insertText .correlationId (correlationId trace)
        | none => draft)
      (fun name ↦ (onlyText? .correlationId (context.traceId?.map correlationId) name).or
        (onlyText? .traceId context.traceId? name)) [] := by
  cases hread : context.traceId? with
  | none => exact (extends_self draft).congr fun name ↦ by simp [onlyText?]
  | some trace =>
    have hcorrelation : HeaderValue.isText (correlationId trace) = true :=
      Text.all_octets_of_subset (correlationId_subset trace)
        (RequestContext.isText_of_valueOf? hread)
    have hinsert := (draft.insertText .traceId trace).extends_insertText .correlationId
      (correlationId trace)
    rw [Option.filter_some, if_pos hcorrelation] at hinsert
    exact (draft.extends_insertText_of_valueOf? hread).trans hinsert

theorem identifierText?_eq (context : RequestContext) (name : HeaderName) :
    identifierText? context name =
      ((onlyText? .correlationId (context.traceId?.map correlationId) name).or
        (onlyText? .traceId context.traceId? name)).or
          (onlyText? .requestId context.requestId? name) := by
  have hrequest : HeaderName.requestId ≠ .traceId ∧ HeaderName.requestId ≠ .correlationId := by
    decide
  have htrace : HeaderName.traceId ≠ .correlationId := by decide
  simp only [identifierText?, onlyText?]
  by_cases hname : name = .requestId
  · simp [hname, hrequest.1.symm, hrequest.2.symm]
  · by_cases hname' : name = .traceId
    · simp [hname', hrequest.1, hrequest.1.symm, htrace.symm]
    · rw [if_neg hname, if_neg hname', if_neg (Ne.symm hname), if_neg (Ne.symm hname'),
        Option.or_none, Option.or_none]
      by_cases hname'' : name = .correlationId
      · rw [if_pos hname'', if_pos hname''.symm]
      · rw [if_neg hname'', if_neg (Ne.symm hname'')]

/-- The first stage lays the identifiers of the inbound request over the headers. -/
theorem extends_withIdentifiers (draft : Draft) (context : RequestContext) :
    draft.Extends (draft.withIdentifiers context) (identifierText? context) [] := by
  have hrequest : draft.Extends
      (match context.requestId? with
        | some id => draft.insertText .requestId id
        | none => draft)
      (onlyText? .requestId context.requestId?) [] := by
    cases hread : context.requestId? with
    | none => exact (extends_self draft).congr fun name ↦ by simp [onlyText?]
    | some id => exact draft.extends_insertText_of_valueOf? hread
  exact (hrequest.trans (extends_trace _ context)).congr fun name ↦
    (identifierText?_eq context name).symm

/-- The draft with an inbound header passed through. -/
def passed (draft : Draft) (context : RequestContext) (name : HeaderName) : Draft :=
  if name.isReserved then draft.report .reservedPassthrough
  else
    match context.valueOf? name with
    | some value => draft.insertText name value
    | none => draft

/-- The draft with a contextual header passed through or resolved. -/
def settled (draft : Draft) (context : RequestContext) (registry : ResolverRegistry) (asked : Nat)
    (name : HeaderName) (resolverName : String) : Draft :=
  if name.isReserved then draft.report .reservedContextual
  else
    match context.valueOf? name with
    | some value => draft.insertText name value
    | none =>
      match registry.find? resolverName with
      | none => draft.report .resolverMissing
      | some resolver => draft.resolve context asked name resolverName resolver

theorem withPassthrough_of_ok {text : String} {name : HeaderName}
    (hname : configuredName text = .ok name) (context : RequestContext) (draft : Draft)
    (rest : List String) :
    withPassthrough context draft (text :: rest) =
      withPassthrough context (draft.passed context name) rest := by
  rw [withPassthrough_cons, hname, passed]
  dsimp only
  by_cases hreserved : name.isReserved = true
  · rw [if_pos hreserved, if_pos hreserved]
  · rw [if_neg hreserved, if_neg hreserved]
    cases context.valueOf? name <;> rfl

theorem withContextual_of_ok {text resolverName : String} {name : HeaderName}
    (hname : configuredName text = .ok name) (context : RequestContext)
    (registry : ResolverRegistry) (asked : Nat) (draft : Draft) (rest : List (String × String)) :
    withContextual context registry asked draft ((text, resolverName) :: rest) =
      withContextual context registry asked
        (draft.settled context registry asked name resolverName) rest := by
  rw [withContextual_cons, hname, settled]
  dsimp only
  by_cases hreserved : name.isReserved = true
  · rw [if_pos hreserved, if_pos hreserved]
  · rw [if_neg hreserved, if_neg hreserved]
    cases context.valueOf? name with
    | some value => rfl
    | none => cases registry.find? resolverName <;> rfl

/-! ### Entry by entry -/

variable {text : String} {name : HeaderName}

/-- An entry passes a header through if the name in it is not reserved. -/
theorem inboundText?_singleton (hname : configuredName text = .ok name)
    (context : RequestContext) :
    inboundText? context [text] =
      onlyText? name (if name.isReserved then none else context.valueOf? name) := by
  funext other
  have hconfigures := configures_cons (configuredName_eq_ok_iff.mp hname) [] other
  rw [inboundText?, hconfigures, onlyText?]
  by_cases hsame : name = other
  · subst hsame
    cases name.isReserved <;> simp
  · simp [hsame, configures]

/-- One entry of the headers that are passed through. -/
theorem extends_passed (hname : configuredName text = .ok name) (draft : Draft)
    (context : RequestContext) :
    draft.Extends (draft.passed context name) (inboundText? context [text]) [] := by
  rw [inboundText?_singleton hname, passed]
  by_cases hreserved : name.isReserved = true
  · rw [if_pos hreserved, if_pos hreserved]
    exact (draft.extends_report _).congr fun other ↦ (ite_self none).symm
  · rw [if_neg hreserved, if_neg hreserved]
    cases hread : context.valueOf? name with
    | none => exact (extends_self draft).congr fun other ↦ (ite_self none).symm
    | some value => exact draft.extends_insertText_of_valueOf? hread

/-- One entry of the headers that are resolved. -/
theorem extends_settled (hname : configuredName text = .ok name) (draft : Draft)
    (context : RequestContext) (registry : ResolverRegistry) (asked : Nat)
    (resolverName : String) :
    draft.Extends (draft.settled context registry asked name resolverName)
      (fun other ↦ (inboundText? context [text] other).or
        (contextualText? context registry (asked + questions draft.steps) [(text, resolverName)]
          other))
      ((questionsOf context registry [(text, resolverName)]).map (·.resolverName)) := by
  have hnothing : ∀ other, onlyText? name none other = none := fun _ ↦ ite_self none
  have hunasked : ∀ other,
      resolvedText? (resolutions context [] (asked + questions draft.steps)) other = none :=
    fun _ ↦ rfl
  rw [inboundText?_singleton hname, settled]
  simp only [contextualText?, questionsOf_singleton (configuredName_eq_ok_iff.mp hname)]
  by_cases hreserved : name.isReserved = true
  · simp only [hreserved, Bool.true_or, if_true, Option.toList_none, hunasked, Option.or_none]
    exact (draft.extends_report _).congr fun other ↦ (hnothing other).symm
  · rw [Bool.not_eq_true] at hreserved
    simp only [hreserved, Bool.false_or, Bool.false_eq_true, if_false]
    cases hread : context.valueOf? name with
    | some value =>
      simp only [Option.isSome_some, if_true, Option.toList_none, hunasked, Option.or_none]
      exact draft.extends_insertText_of_valueOf? hread
    | none =>
      simp only [Option.isSome_none, Bool.false_eq_true, if_false, hnothing, Option.none_or]
      cases registry.find? resolverName with
      | none => exact draft.extends_report _
      | some resolver =>
        exact (draft.extends_resolve context asked name resolverName resolver).congr fun other ↦
          (resolvedText?_singleton
            (Question.resolution context ⟨text, name, resolverName, resolver⟩ _) other).symm

/-- Passing through the configured headers lays those over the headers that the inbound request has.
Assumes: the names are valid. -/
theorem extends_withPassthrough (context : RequestContext) {texts : List String}
    (hvalid : HeaderRules.checkNames texts = .ok ()) (draft : Draft) :
    ∃ after, withPassthrough context draft texts = (.ok (), after) ∧
      draft.Extends after (inboundText? context texts) [] := by
  induction texts generalizing draft with
  | nil => exact ⟨draft, rfl, extends_self draft⟩
  | cons text rest ih =>
    obtain ⟨⟨name, hname⟩, hrest⟩ := HeaderRules.checkNames_cons_eq_ok_iff.mp hvalid
    obtain ⟨after, hafter, hextends⟩ := ih hrest (draft.passed context name)
    refine ⟨after, (withPassthrough_of_ok hname context draft rest).trans hafter, ?_⟩
    exact ((extends_passed hname draft context).trans hextends).congr fun other ↦
      (inboundText?_append context [text] rest other).symm

/-- Resolving the contextual headers lays over the headers those that the inbound request has, and
for the others what resolvers answer. Assumes: the names are valid. -/
theorem extends_withContextual (context : RequestContext) (registry : ResolverRegistry)
    (asked : Nat) {contextual : List (String × String)}
    (hvalid : HeaderRules.checkNames (contextual.map (·.1)) = .ok ()) (draft : Draft) :
    ∃ after, withContextual context registry asked draft contextual = (.ok (), after) ∧
      draft.Extends after
        (fun name ↦ (inboundText? context (contextual.map (·.1)) name).or
          (contextualText? context registry (asked + questions draft.steps) contextual name))
        ((questionsOf context registry contextual).map (·.resolverName)) := by
  induction contextual generalizing draft with
  | nil => exact ⟨draft, rfl, extends_self draft⟩
  | cons entry rest ih =>
    obtain ⟨text, resolverName⟩ := entry
    rw [List.map_cons, HeaderRules.checkNames_cons_eq_ok_iff] at hvalid
    obtain ⟨⟨name, (hname : configuredName text = .ok name)⟩, hrest⟩ := hvalid
    have hfirst := extends_settled hname draft context registry asked resolverName
    obtain ⟨after, hafter, hextends⟩ := ih hrest
      (draft.settled context registry asked name resolverName)
    refine ⟨after, (withContextual_of_ok hname context registry asked draft rest).trans hafter, ?_⟩
    rw [hfirst.questions_eq, List.length_map, ← Nat.add_assoc] at hextends
    have hsplit : (text, resolverName) :: rest = [(text, resolverName)] ++ rest := rfl
    simp only [hsplit, questionsOf_append, List.map_append]
    refine (hfirst.trans hextends).congr fun other ↦ ?_
    rw [inboundText?_append, contextualText?_append]
    exact inboundText?_or_contextualText? context registry _ _ _ _ _

end Draft

/-! ### All layers -/

section Building

variable {token : String} {rules : HeaderRules} {name : HeaderName}

/-- The headers that every request has carry the fixed texts. -/
theorem octets?_fixedHeaders {bearer : HeaderValue}
    (hbearer : bearer.octets = Text.octets ("Bearer " ++ token)) (name : HeaderName) :
    HeaderMap.octets? name (fixedHeaders bearer) = (fixedText? token name).map Text.octets := by
  have haccept : HeaderName.authorization ≠ .accept ∧ HeaderName.authorization ≠ .contentType := by
    decide
  simp only [HeaderMap.octets?, fixedHeaders, HeaderMap.find?, fixedText?]
  by_cases hname : name = .accept
  · simp [hname, jsonMediaType]
  · by_cases hname' : name = .contentType
    · simp [hname', jsonMediaType]
    · by_cases hname'' : name = .authorization
      · simp [hname'', haccept.1, haccept.2, haccept.1.symm, haccept.2.symm, hbearer]
      · simp [hname, hname', hname'', Ne.symm hname, Ne.symm hname', Ne.symm hname'']

theorem nodup_names_fixedHeaders (bearer : HeaderValue) :
    (HeaderMap.names (fixedHeaders bearer)).Nodup := by
  show [HeaderName.accept, .contentType, .authorization].Nodup
  decide

theorem isReserved_iff :
    name.isReserved = true ↔ name = .accept ∨ name = .contentType ∨ name = .authorization := by
  rw [HeaderName.isReserved, Bool.or_eq_true, Bool.or_eq_true, decide_eq_true_eq,
    decide_eq_true_eq, decide_eq_true_eq, or_assoc]

/-- The headers that are not reserved are not fixed. -/
theorem fixedText?_of_not_isReserved (hfree : ¬ name.isReserved = true) :
    fixedText? token name = none := by
  rw [isReserved_iff, ← or_assoc, not_or] at hfree
  rw [fixedText?, if_neg hfree.1, if_neg hfree.2]

/-- A reserved header has a fixed text. -/
theorem fixedText?_of_isReserved (hreserved : name.isReserved = true) :
    ∃ text, fixedText? token name = some text := by
  rw [fixedText?]
  split
  · exact ⟨_, rfl⟩
  · next hother =>
    rw [isReserved_iff, ← or_assoc] at hreserved
    rw [if_pos (hreserved.resolve_left hother)]
    exact ⟨_, rfl⟩

/-- No identifier of the inbound request has a reserved name. -/
theorem identifierText?_of_isReserved (hreserved : name.isReserved = true)
    (context : RequestContext) : identifierText? context name = none := by
  rw [isReserved_iff] at hreserved
  rcases hreserved with rfl | rfl | rfl <;> rfl

/-- The layers laid over each other by the stages, over the fixed headers, are the text that is sent
for a name. -/
theorem outboundText?_eq (token : String) (context : RequestContext) (rules : HeaderRules)
    (registry : ResolverRegistry) (asked : Nat) (name : HeaderName) :
    outboundText? token context rules registry asked name =
      (((inboundText? context (rules.contextual.map (·.1)) name).or
          (contextualText? context registry asked rules.contextual name)).or
        ((inboundText? context rules.passthrough name).or (identifierText? context name))).or
          (fixedText? token name) := by
  rw [inboundText?_or_contextualText?, ← inboundText?_append, outboundText?]
  by_cases hreserved : name.isReserved = true
  · have hinbound : inboundText? context (rules.passthrough ++ rules.contextual.map (·.1)) name =
        none := by
      rw [inboundText?, hreserved, Bool.not_true, Bool.and_false]
      rfl
    obtain ⟨text, hfixed⟩ := fixedText?_of_isReserved hreserved
    rw [hfixed, hinbound, contextualText?_eq_none (.inl hreserved),
      identifierText?_of_isReserved hreserved]
    rfl
  · rw [fixedText?_of_not_isReserved hreserved, Option.none_or, Option.or_none]

/-- A token that cannot be sent ends the construction before it does anything. -/
theorem build_of_not_isText (hbearer : ¬ HeaderValue.isText ("Bearer " ++ token) = true)
    (context : RequestContext) (rules : HeaderRules) (registry : ResolverRegistry) (asked : Nat) :
    build token context rules registry asked = (.error ⟨HeaderName.authorization.text⟩, []) := by
  rw [build, bearerValue?, HeaderValue.ofText?_of_not_isText hbearer]

/-- The headers that are built have one value for each name, the text of the layers, and the
resolvers of all questions were asked. Assumes: valid names, and a token that can be sent. -/
theorem build_of_isText (hrules : rules.validate = .ok ())
    (hbearer : HeaderValue.isText ("Bearer " ++ token) = true) (context : RequestContext)
    (registry : ResolverRegistry) (asked : Nat) :
    ∃ headers steps, build token context rules registry asked = (.ok headers, steps) ∧
      (HeaderMap.names headers).Nodup ∧
      (∀ name, HeaderMap.octets? name headers =
        (outboundText? token context rules registry asked name).map Text.octets) ∧
      askedIn steps = (questionsOf context registry rules.contextual).map (·.resolverName) := by
  obtain ⟨hpassthrough, hcontextual⟩ := HeaderRules.checkNames_append_eq_ok_iff.mp hrules
  obtain ⟨bearer, hvalue, hoctets⟩ : ∃ bearer, bearerValue? token = some bearer ∧
      bearer.octets = Text.octets ("Bearer " ++ token) :=
    ⟨_, HeaderValue.ofText?_of_isText hbearer, rfl⟩
  have hidentifiers := Draft.extends_withIdentifiers ⟨fixedHeaders bearer, []⟩ context
  obtain ⟨middle, hmiddle, hpassed⟩ := Draft.extends_withPassthrough context hpassthrough
    (Draft.withIdentifiers ⟨fixedHeaders bearer, []⟩ context)
  obtain ⟨after, hafter, hresolved⟩ := Draft.extends_withContextual context registry asked
    hcontextual middle
  have hextends := hidentifiers.trans (hpassed.trans hresolved)
  -- Nothing was asked before the contextual headers.
  have hnumber : asked + questions middle.steps = asked := by
    rw [(hidentifiers.trans hpassed).questions_eq]
    rfl
  rw [hnumber] at hextends
  refine ⟨after.headers, after.steps, ?_, hextends.nodup (nodup_names_fixedHeaders bearer),
    fun name ↦ ?_, hextends.asked⟩
  · rw [build, hvalue]
    simp only [hmiddle, hafter]
  · rw [hextends.octets, octets?_fixedHeaders hoctets, ← Option.map_or, outboundText?_eq]
    simp only [Option.or_assoc]

/-- What is built, exactly. Building fails only for a token that cannot be sent, and names the
credentials. Otherwise the headers have one value for each name, which is the text of the first of
these that has one: the fixed headers; the inbound request, if the name is configured; the answer of
a resolver for the name, the greatest entry counting; the identifiers of the inbound request. A name
for which none of them has a text is not sent. Assumes: valid names, and contextual entries that
ascend. -/
theorem build_carries_layers (token : String) (context : RequestContext) (rules : HeaderRules)
    (registry : ResolverRegistry) (asked : Nat) (hrules : rules.validate = .ok ())
    (hascends : (rules.contextual.map (·.1)).Pairwise (· < ·)) :
    (HeaderValue.isText ("Bearer " ++ token) = false →
        (build token context rules registry asked).1 = .error ⟨HeaderName.authorization.text⟩) ∧
      (HeaderValue.isText ("Bearer " ++ token) = true →
        ∃ headers, (build token context rules registry asked).1 = .ok headers ∧
          (HeaderMap.names headers).Nodup ∧
          ∀ name, HeaderMap.octets? name headers =
            (outboundText? token context rules registry asked name).map Text.octets) ∧
      ∀ name answer,
        contextualText? context registry asked rules.contextual name = some answer ↔
          ∃ resolution ∈ resolutions context (questionsOf context registry rules.contextual) asked,
            resolution.name = name ∧ resolution.answer = some answer ∧
              ∀ other ∈ resolutions context (questionsOf context registry rules.contextual) asked,
                other.name = name → other.answer ≠ none → other.text ≤ resolution.text := by
  refine ⟨fun hbearer ↦ ?_, fun hbearer ↦ ?_, fun name answer ↦ ?_⟩
  · rw [build_of_not_isText (Bool.eq_false_iff.mp hbearer)]
  · obtain ⟨headers, steps, hbuild, hnodup, hoctets, -⟩ :=
      build_of_isText hrules hbearer context registry asked
    exact ⟨headers, congrArg Prod.fst hbuild, hnodup, hoctets⟩
  · refine resolvedText?_eq_some_iff ?_
    rw [map_text_resolutions]
    exact hascends.sublist (map_text_questionsOf_sublist context registry rules.contextual)

end Building

/-! ### A configuration in several spellings -/

/-- The header that tells the tenant of a request. -/
def tenantId : HeaderName := ⟨"x-tenant-id", by decide⟩

/-- The header that tells the user of a request. -/
def userId : HeaderName := ⟨"x-user-id", by decide⟩

/-- Rules that name one header twice, with white space and in both cases, and a reserved one. -/
def spelledRules : HeaderRules :=
  ⟨[" X-Tenant-Id", "Authorization"], [("X-User-Id", "user"), ("x-user-id ", "guest")]⟩

/-- An inbound request of a tenant, with credentials of its own and a trace. -/
def tenantContext : RequestContext :=
  RequestContext.ofFields
    [(tenantId, ⟨Text.octets "t1", by decide⟩),
      (.authorization, ⟨Text.octets "Bearer inbound", by decide⟩),
      (.traceId, ⟨Text.octets "Root=1-5e1b;Parent=5", by decide⟩)]

/-- Resolvers for users and guests. -/
def userRegistry : ResolverRegistry :=
  ⟨[("user", Resolver.fixed (some "u-1")), ("guest", Resolver.fixed (some "g-1"))]⟩

theorem build_carries_layers_spelled :
    spelledRules.validate = .ok () ∧
      ∃ headers, (build "tok-1" tenantContext spelledRules userRegistry 0).1 = .ok headers ∧
        HeaderMap.octets? .authorization headers = some (Text.octets "Bearer tok-1") ∧
        HeaderMap.octets? tenantId headers = some (Text.octets "t1") ∧
        HeaderMap.octets? userId headers = some (Text.octets "g-1") ∧
        HeaderMap.octets? .correlationId headers = some (Text.octets "1-5e1b") ∧
        HeaderMap.octets? .requestId headers = none := by
  have hrules : spelledRules.validate = .ok () := by rfl
  have hascends : (spelledRules.contextual.map (·.1)).Pairwise (· < ·) := by decide
  obtain ⟨-, hbuilt, -⟩ := build_carries_layers "tok-1" tenantContext spelledRules userRegistry 0
    hrules hascends
  obtain ⟨headers, hheaders, -, hoctets⟩ := hbuilt (by decide)
  refine ⟨hrules, headers, hheaders, ?_, ?_, ?_, ?_, ?_⟩ <;> rw [hoctets] <;> rfl

end OutboundHeaders

end ResourceLookup
