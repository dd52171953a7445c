import ResourceLookup.Proofs.OutboundHeaders

/-!
# Which inbound values are passed on

A value of the inbound request is read as a text before it is sent again, and reading knows visible
ASCII only, whereas a value may be stored and sent with any octet but the controls. A configured
header whose value is visible arrives unchanged, and no resolver is asked for it. A value that is
text beyond ASCII counts as absent: it is sent only if a resolver happens to answer it
(`OutboundHeaders.build_passes_visible`).

No identifier of the inbound request can stand in for such a value, for these are read in the same
way (`OutboundHeaders.visible_of_identifierText?`).
-/

set_option autoImplicit false
set_option relaxedAutoImplicit false

namespace ResourceLookup

/-- Whether the rules name a header to be passed through or resolved. -/
def HeaderRules.configures (rules : HeaderRules) (name : HeaderName) : Bool :=
  ResourceLookup.configures (rules.passthrough ++ rules.contextual.map (·.1)) name

namespace OutboundHeaders

variable {context : RequestContext} {name : HeaderName} {text : String}

/-- The identifiers of the inbound request are visible. -/
theorem visible_of_identifierText? (hidentifier : identifierText? context name = some text) :
    (Text.octets text).all HeaderValue.isVisibleOctet = true := by
  have hread : ∀ {source : HeaderName} {read : String}, context.valueOf? source = some read →
      (Text.octets read).all HeaderValue.isVisibleOctet = true := by
    intro source read hsource
    obtain ⟨value, -, hvisible, hoctets, -⟩ := RequestContext.valueOf?_eq_some_iff.mp hsource
    rwa [hoctets]
  rw [identifierText?] at hidentifier
  split at hidentifier
  · exact hread hidentifier
  · split at hidentifier
    · exact hread hidentifier
    · split at hidentifier
      · obtain ⟨trace, htrace, rfl⟩ := Option.map_eq_some_iff.mp hidentifier
        exact Text.all_octets_of_subset (correlationId_subset trace) (hread htrace)
      · cases hidentifier

/-- The header of a configured name that is read has the inbound text. -/
theorem outboundText?_of_valueOf? {token : String} {rules : HeaderRules}
    {registry : ResolverRegistry} {asked : Nat} (hconfigured : rules.configures name = true)
    (hfree : name.isReserved = false) (hread : context.valueOf? name = some text) :
    outboundText? token context rules registry asked name = some text := by
  have hinbound : inboundText? context (rules.passthrough ++ rules.contextual.map (·.1)) name =
      some text := by
    rw [inboundText?, ← HeaderRules.configures, hconfigured, hfree, ← hread]
    rfl
  rw [outboundText?, fixedText?_of_not_isReserved (Bool.eq_false_iff.mp hfree), hinbound]
  rfl

/-- The header of a name that is not read is resolved, or an identifier. -/
theorem outboundText?_of_valueOf?_eq_none {token : String} {rules : HeaderRules}
    {registry : ResolverRegistry} {asked : Nat} (hfree : name.isReserved = false)
    (habsent : context.valueOf? name = none) :
    outboundText? token context rules registry asked name =
      (contextualText? context registry asked rules.contextual name).or
        (identifierText? context name) := by
  rw [outboundText?, fixedText?_of_not_isReserved (Bool.eq_false_iff.mp hfree), inboundText?,
    habsent, ite_self]
  rfl

/-- Which inbound values are passed on. The value of a configured header that is not reserved is
sent verbatim, whatever resolvers would answer, and none of them is asked for it, if it is visible;
else it is sent exactly if a resolver gives the same text. Assumes: valid names, a token that can be
sent, and a first value that is text and not blank. -/
theorem build_passes_visible (token : String) (context : RequestContext) (rules : HeaderRules)
    (name : HeaderName) (value : HeaderValue) (text : String)
    (hrules : rules.validate = .ok ())
    (hbearer : HeaderValue.isText ("Bearer " ++ token) = true)
    (hconfigured : rules.configures name = true) (hfree : name.isReserved = false)
    (hfirst : HeaderFields.first? name context.fields = some value)
    (htext : Text.ofOctets? value.octets = some text) (hfull : Text.isBlank text = false) :
    (value.isVisible = true → ∀ registry asked, ∃ headers,
        (build token context rules registry asked).1 = .ok headers ∧
          HeaderMap.find? name headers = some value ∧
          askedIn (build token context rules registry asked).2 =
            (questionsOf context registry rules.contextual).map (·.resolverName) ∧
          ∀ question ∈ questionsOf context registry rules.contextual, question.name ≠ name) ∧
      (value.isVisible = false → ∀ registry asked, ∃ headers,
        (build token context rules registry asked).1 = .ok headers ∧
          (HeaderMap.find? name headers = some value ↔
            contextualText? context registry asked rules.contextual name = some text)) := by
  have hoctets : Text.octets text = value.octets := (Text.ofOctets?_eq_some_iff _ _).mp htext
  have hreads : context.valueOf? name = some text ↔ _ := RequestContext.valueOf?_of_first hfirst
  constructor
  · intro hvisible registry asked
    have hread : context.valueOf? name = some text := hreads.mpr ⟨hvisible, hoctets, hfull⟩
    obtain ⟨headers, steps, hbuild, -, hsent, hasked⟩ :=
      build_of_isText hrules hbearer context registry asked
    rw [hbuild]
    refine ⟨headers, rfl, ?_, hasked, fun question hquestion hname ↦ ?_⟩
    · rw [← HeaderMap.octets?_eq_some_iff, hsent,
        outboundText?_of_valueOf? hconfigured hfree hread, ← hoctets]
      rfl
    · obtain ⟨entry, -, hasks⟩ := List.mem_filterMap.mp hquestion
      have habsent := (of_question?_eq_some hasks).2
      rw [hname] at habsent
      cases habsent.symm.trans hread
  · intro hopaque registry asked
    have habsent : context.valueOf? name = none := by
      rw [Option.eq_none_iff_forall_ne_some]
      intro other hread
      obtain ⟨seen, hseen, hvisible, -⟩ := RequestContext.valueOf?_eq_some_iff.mp hread
      obtain rfl : value = seen := Option.some.inj (hfirst.symm.trans hseen)
      cases hvisible.symm.trans hopaque
    have hidentifier : identifierText? context name ≠ some text := by
      intro hsame
      have hvisible := visible_of_identifierText? hsame
      rw [hoctets] at hvisible
      cases hvisible.symm.trans hopaque
    obtain ⟨headers, steps, hbuild, -, hsent, -⟩ :=
      build_of_isText hrules hbearer context registry asked
    rw [hbuild]
    refine ⟨headers, rfl, ?_⟩
    rw [← HeaderMap.octets?_eq_some_iff, hsent, outboundText?_of_valueOf?_eq_none hfree habsent,
      ← hoctets, Text.map_octets_eq_some_iff, Option.or_eq_some_iff]
    exact or_iff_left fun hidentified ↦ hidentifier hidentified.2

theorem build_passes_visible_tenant :
    ∃ headers, (build "tok-1" tenantContext spelledRules userRegistry 0).1 = .ok headers ∧
      HeaderMap.find? tenantId headers = some ⟨Text.octets "t1", by decide⟩ := by
  obtain ⟨hvisible, -⟩ := build_passes_visible "tok-1" tenantContext spelledRules tenantId
    ⟨Text.octets "t1", by decide⟩ "t1" rfl (by decide) rfl rfl rfl rfl rfl
  obtain ⟨headers, hheaders, hsent, -⟩ := hvisible rfl userRegistry 0
  exact ⟨headers, hheaders, hsent⟩

/-- An inbound request of a tenant whose name is not ASCII. -/
def accentedContext : RequestContext :=
  RequestContext.ofFields [(tenantId, ⟨Text.octets "Zoë", by decide⟩)]

/-- A value that is text and not blank, but is not sent. -/
theorem build_passes_visible_accented :
    HeaderFields.first? tenantId accentedContext.fields =
        some ⟨Text.octets "Zoë", by decide⟩ ∧
      Text.ofOctets? (Text.octets "Zoë") = some "Zoë" ∧ Text.isBlank "Zoë" = false ∧
      ∃ headers, (build "tok-1" accentedContext spelledRules ⟨[]⟩ 0).1 = .ok headers ∧
        HeaderMap.find? tenantId headers = none :=
  ⟨rfl, rfl, rfl, _, rfl, rfl⟩

end OutboundHeaders

end ResourceLookup
