import ResourceLookup.Proofs.SectionOverlay
import ResourceLookup.Settings.Client

/-!
# Parts of the settings of a client

The settings of a client are a record of values, records and maps. A `Part` of them is one of these,
at any depth: the names under which it is configured, how it is read and how it is got from the
settings. `ClientSettings.IsPart` lists them all, record by record.

Settings that are decoded from a section have each part as it is read from the value under its
names, and as in the standard settings where the section has nothing there
(`ClientSettings.readBy_of_isPart`). This follows from what each record does with its own members
(`Json.Takes`), carried down the names of a part by `Part.ReadBy.under`.
-/

set_option autoImplicit false
set_option relaxedAutoImplicit false

namespace ResourceLookup

open ResourceLookup.Tree

/-! ### Decoders of records -/

namespace Json

variable {α β : Type}

theorem bind_eq_ok_iff {decoded : Decoded α} {next : α → Decoded β} {result : β} :
    decoded >>= next = .ok result ↔ ∃ value, decoded = .ok value ∧ next value = .ok result := by
  rcases decoded with mismatch | value
  · show Except.error mismatch = Except.ok result ↔ _
    simp
  · show next value = .ok result ↔ _
    simp

/-- The members of an object, for a decoder to ask for. -/
def fieldsOf (members : List (String × Json)) : Fields :=
  ⟨fun name ↦ lookup name members⟩

theorem eq_fieldsOf_of_record {type : String} {known : List String} {closed : Bool}
    {surplus : Surplus} {members : List (String × Json)} {fields : Fields}
    (hrecord : record type known closed surplus (.object members) = .ok fields) :
    fields = fieldsOf members := by
  unfold record at hrecord
  dsimp only at hrecord
  split at hrecord
  · exact absurd hrecord (by simp)
  · exact (Except.ok.inj hrecord).symm

/-- A record that ignores members it does not know takes every section. -/
theorem checkMembers_of_ascending (known : List String) {members : List (String × Json)}
    (hmembers : members.Pairwise fun first second ↦ first.1 < second.1) :
    checkMembers known false members = .ok () := by
  induction members with
  | nil => rfl
  | cons member rest ih =>
    have hrest := List.pairwise_cons.mp hmembers
    have honce : rest.any (·.1 == member.1) = false := by
      rw [List.any_eq_false]
      intro other hother hsame
      have hless := hrest.1 other hother
      exact String.lt_irrefl member.1 (by rwa [beq_iff_eq.mp hsame] at hless)
    unfold checkMembers
    rw [honce, ih hrest.2]
    split <;> rfl

/-- What a decoder of records reads has under `get` what `read` makes of the member of that name,
and what the standard has where there is none. -/
structure Takes (decode : Json → Decoded α) (standard : α) (name : String) (read : Json → Decoded β)
    (get : α → β) : Prop where
  of_some : ∀ {members : List (String × Json)} {result : α} {below : Json},
    (members.Pairwise fun first second ↦ first.1 < second.1) →
      decode (.object members) = .ok result → lookup name members = some below →
        read below = .ok (get result)
  of_none : ∀ {members : List (String × Json)} {result : α},
    (members.Pairwise fun first second ↦ first.1 < second.1) →
      decode (.object members) = .ok result → lookup name members = none →
        get result = get standard

theorem takes_of_withDefault {decode : Json → Decoded α} {standard : α} {name : String}
    {read : Json → Decoded β} {get : α → β}
    (hdecode : ∀ {members : List (String × Json)} {result : α},
      decode (.object members) = .ok result →
        (fieldsOf members).withDefault name (get standard) read = .ok (get result)) :
    Takes decode standard name read get where
  of_some {members result below} _ hresult hlookup := by
    have hmember := hdecode hresult
    unfold Fields.withDefault fieldsOf at hmember
    dsimp only at hmember
    rwa [hlookup] at hmember
  of_none {members result} _ hresult hlookup := by
    have hmember := hdecode hresult
    unfold Fields.withDefault fieldsOf at hmember
    dsimp only at hmember
    rw [hlookup] at hmember
    exact (Except.ok.inj hmember).symm

end Json

/-! ### Parts -/

/-- A part of data of a type: the names under which it is configured, how it is read and where it is
found. -/
structure Part (α : Type) where
  Value : Type
  names : List String
  read : Json → Json.Decoded Value
  get : α → Value

namespace Part

variable {α β : Type}

/-- All of the data. -/
def whole (read : Json → Json.Decoded α) : Part α :=
  ⟨α, [], read, id⟩

/-- A part of what stands under a name. -/
def under (name : String) (get : α → β) (part : Part β) : Part α :=
  ⟨part.Value, name :: part.names, part.read, fun data ↦ part.get (get data)⟩

/-- Data that are decoded have the part as it is read from what stands under its names, and as in
the standard where there is nothing. -/
structure ReadBy (part : Part α) (decode : Json → Json.Decoded α) (standard : α) : Prop where
  of_found : ∀ {value below : Json} {result : α}, Ascending (some value) →
    decode value = .ok result → placeAt part.names (some value) = .found below →
      part.read below = .ok (part.get result)
  of_absent : ∀ {value : Json} {result : α}, Ascending (some value) →
    decode value = .ok result → placeAt part.names (some value) = .absent →
      part.get result = part.get standard

theorem readBy_whole (decode : Json → Json.Decoded α) (standard : α) :
    (whole decode).ReadBy decode standard where
  of_found _ hdecode hplace := Place.found.inj hplace ▸ hdecode
  of_absent _ _ hplace := absurd hplace (by simp [whole, placeAt])

/-- Assumes: a decoder takes a member, and a part is read by the decoder of the member. Then it is
read by the decoder of the whole. -/
theorem ReadBy.under {decode : Json → Json.Decoded α} {read : Json → Json.Decoded β}
    {standard : α} {name : String} {get : α → β} {part : Part β}
    (hpart : part.ReadBy read (get standard)) (htakes : Json.Takes decode standard name read get) :
    (part.under name get).ReadBy decode standard where
  of_found {value below result} hvalue hdecode hplace := by
    change placeAt (name :: part.names) (some value) = _ at hplace
    obtain ⟨members, rfl⟩ := exists_object_of_placeAt (by rw [hplace]; simp)
    rw [placeAt_object] at hplace
    have hascending := hvalue.below? name
    rcases hlookup : Json.lookup name members with _ | member
    · rw [hlookup, placeAt_none] at hplace
      exact absurd hplace (by simp)
    · rw [hlookup] at hplace
      have hmember := htakes.of_some hvalue.members hdecode hlookup
      exact hpart.of_found (hlookup ▸ hascending) hmember hplace
  of_absent {value result} hvalue hdecode hplace := by
    change placeAt (name :: part.names) (some value) = _ at hplace
    obtain ⟨members, rfl⟩ := exists_object_of_placeAt (by rw [hplace]; simp)
    rw [placeAt_object] at hplace
    have hascending := hvalue.below? name
    rcases hlookup : Json.lookup name members with _ | member
    · exact congrArg part.get (htakes.of_none hvalue.members hdecode hlookup)
    · rw [hlookup] at hplace
      have hmember := htakes.of_some hvalue.members hdecode hlookup
      exact hpart.of_absent (hlookup ▸ hascending) hmember hplace

/-- Assumes: a decoder asks for a member with the standard as its default, and a part is read by
the decoder of the member. Then it is read by the decoder of the whole. -/
theorem ReadBy.member {decode : Json → Json.Decoded α} {read : Json → Json.Decoded β}
    {standard : α} {name : String} {get : α → β} {part : Part β}
    (hpart : part.ReadBy read (get standard))
    (hdecode : ∀ {members : List (String × Json)} {result : α},
      decode (.object members) = .ok result →
        (Json.fieldsOf members).withDefault name (get standard) read = .ok (get result)) :
    (part.under name get).ReadBy decode standard :=
  hpart.under (Json.takes_of_withDefault hdecode)

end Part

/-! ### Pauses and retries -/

namespace Backoff

/-- The parts of the settings for pauses. -/
inductive IsPart : Part Backoff → Prop where
  | whole : IsPart (.whole (decode .ignored))
  | initial : IsPart (.under "initial" Backoff.initial (.whole HumanDuration.decode))
  | longest : IsPart (.under "max" Backoff.longest (.whole HumanDuration.decode))
  | multiplier : IsPart (.under "multiplier" Backoff.multiplier (.whole Json.asReal))
  | jitter : IsPart (.under "jitter" Backoff.jitter (.whole Json.asBool))

theorem members_of_decode {members : List (String × Json)} {backoff : Backoff}
    (hdecode : decode .ignored (.object members) = .ok backoff) :
    let fields := Json.fieldsOf members
    fields.withDefault "initial" standard.initial HumanDuration.decode = .ok backoff.initial ∧
      fields.withDefault "max" standard.longest HumanDuration.decode = .ok backoff.longest ∧
      fields.withDefault "multiplier" standard.multiplier Json.asReal = .ok backoff.multiplier ∧
      fields.withDefault "jitter" standard.jitter Json.asBool = .ok backoff.jitter := by
  unfold decode at hdecode
  simp only [Json.bind_eq_ok_iff] at hdecode
  obtain ⟨fields, hfields, initial, hinitial, longest, hlongest, multiplier, hmultiplier, jitter,
    hjitter, hbackoff⟩ := hdecode
  obtain rfl := Json.eq_fieldsOf_of_record hfields
  obtain rfl := Except.ok.inj hbackoff
  exact ⟨hinitial, hlongest, hmultiplier, hjitter⟩

theorem readBy_of_isPart {part : Part Backoff} (hpart : IsPart part) :
    part.ReadBy (decode .ignored) standard := by
  cases hpart with
  | whole => exact Part.readBy_whole _ _
  | initial =>
    exact (Part.readBy_whole _ _).member fun hdecode ↦ (members_of_decode hdecode).1
  | longest =>
    exact (Part.readBy_whole _ _).member fun hdecode ↦ (members_of_decode hdecode).2.1
  | multiplier =>
    exact (Part.readBy_whole _ _).member fun hdecode ↦ (members_of_decode hdecode).2.2.1
  | jitter =>
    exact (Part.readBy_whole _ _).member fun hdecode ↦ (members_of_decode hdecode).2.2.2

end Backoff

namespace RetrySettings

/-- The parts of the settings for retries. -/
inductive IsPart : Part RetrySettings → Prop where
  | whole : IsPart (.whole (decode .ignored))
  | retries : IsPart (.under "retries" RetrySettings.retries (.whole Json.asNat64))
  | backoff {part : Part Backoff} (hpart : Backoff.IsPart part) :
    IsPart (part.under "backoff" RetrySettings.backoff)

theorem members_of_decode {members : List (String × Json)} {settings : RetrySettings}
    (hdecode : decode .ignored (.object members) = .ok settings) :
    let fields := Json.fieldsOf members
    fields.withDefault "retries" standard.retries Json.asNat64 = .ok settings.retries ∧
      fields.withDefault "backoff" standard.backoff (Backoff.decode .ignored) =
        .ok settings.backoff := by
  unfold decode at hdecode
  simp only [Json.bind_eq_ok_iff] at hdecode
  obtain ⟨fields, hfields, retries, hretries, backoff, hbackoff, hsettings⟩ := hdecode
  obtain rfl := Json.eq_fieldsOf_of_record hfields
  obtain rfl := Except.ok.inj hsettings
  exact ⟨hretries, hbackoff⟩

theorem readBy_of_isPart {part : Part RetrySettings} (hpart : IsPart part) :
    part.ReadBy (decode .ignored) standard := by
  cases hpart with
  | whole => exact Part.readBy_whole _ _
  | retries =>
    exact (Part.readBy_whole _ _).member fun hdecode ↦ (members_of_decode hdecode).1
  | backoff hpart =>
    refine Part.ReadBy.member ?_ fun hdecode ↦ (members_of_decode hdecode).2
    exact Backoff.readBy_of_isPart hpart

end RetrySettings

/-! ### The failure cache -/

namespace FailureCategory

theorem decodeName_eq_ok_iff {text : String} {category : FailureCategory} :
    decodeName text = .ok category ↔ text = category.name := by
  constructor
  · intro hdecode
    unfold decodeName at hdecode
    rcases hnamed : named? text with _ | found
    · rw [hnamed] at hdecode
      exact absurd hdecode (by simp)
    · rw [hnamed] at hdecode
      obtain rfl := Except.ok.inj hdecode
      unfold named? at hnamed
      have hname := List.find?_some hnamed
      exact (beq_iff_eq.mp hname).symm
  · rintro rfl
    unfold decodeName
    rw [named?_name]

end FailureCategory

namespace CategoryTtls

theorem find?_insert (category other : FailureCategory) (ttl : Duration) (ttls : CategoryTtls) :
    find? other (insert category ttl ttls) =
      if category = other then some ttl else find? other ttls := by
  induction ttls with
  | nil => rfl
  | cons first rest ih =>
    obtain ⟨held, old⟩ := first
    unfold insert
    split
    · rfl
    · split
      · next hsame =>
        subst hsame
        rw [find?, find?]
        split <;> rfl
      · next hdifferent =>
        rw [find?, find?, ih]
        by_cases hheld : held = other
        · rw [if_pos hheld, if_pos hheld, if_neg (hheld ▸ hdifferent)]
        · rw [if_neg hheld, if_neg hheld]

/-- Overrides from the members of an object. -/
def read (ttls : Json) : Json.Decoded CategoryTtls := do
  let members ← Json.asMembers ttls
  FailurePolicy.decodeTtls [] members

/-- The parts of the overrides: the one for each category, if there is one. -/
inductive IsPart : Part CategoryTtls → Prop where
  | whole : IsPart (.whole read)
  | category (category : FailureCategory) :
    IsPart (.under category.name (find? category)
      (.whole fun value ↦ (HumanDuration.decode value).map some))

/-- Assumes: overrides are read from members with ascending names, after others. The one for a
category is read from the member of its name, and is the one read before if there is no such
member. -/
theorem find?_of_decodeTtls (category : FailureCategory) {members : List (String × Json)}
    {before ttls : CategoryTtls}
    (hmembers : members.Pairwise fun first second ↦ first.1 < second.1)
    (hdecode : FailurePolicy.decodeTtls before members = .ok ttls) :
    (∀ below, Json.lookup category.name members = some below →
        (HumanDuration.decode below).map some = .ok (find? category ttls)) ∧
      (Json.lookup category.name members = none → find? category ttls = find? category before) := by
  induction members generalizing before with
  | nil =>
    obtain rfl := Except.ok.inj hdecode
    exact ⟨fun below hbelow ↦ absurd hbelow (by simp [Json.lookup]), fun _ ↦ rfl⟩
  | cons member rest ih =>
    obtain ⟨name, value⟩ := member
    have hrest := List.pairwise_cons.mp hmembers
    unfold FailurePolicy.decodeTtls at hdecode
    split at hdecode
    · exact absurd hdecode (by simp)
    · next held hheld =>
      obtain rfl := FailureCategory.decodeName_eq_ok_iff.mp hheld
      split at hdecode
      · exact absurd hdecode (by simp)
      · next ttl httl =>
        obtain ⟨hsome, hnone⟩ := ih hrest.2 hdecode
        rw [Json.lookup]
        by_cases hsame : held = category
        · subst hsame
          rw [if_pos rfl, hnone (Json.lookup_behind hmembers), find?_insert, if_pos rfl]
          refine ⟨fun below hbelow ↦ ?_, fun hbelow ↦ absurd hbelow (by simp)⟩
          obtain rfl := Option.some.inj hbelow
          rw [httl]
          rfl
        · have hname : held.name ≠ category.name := fun hname ↦ hsame (by
            have hnamed := FailureCategory.named?_name held
            rw [hname, FailureCategory.named?_name] at hnamed
            exact (Option.some.inj hnamed).symm)
          rw [if_neg hname]
          refine ⟨hsome, fun hbelow ↦ ?_⟩
          rw [hnone hbelow, find?_insert, if_neg hsame]

theorem readBy_of_isPart {part : Part CategoryTtls} (hpart : IsPart part) :
    part.ReadBy read [] := by
  cases hpart with
  | whole => exact Part.readBy_whole _ _
  | category category =>
    refine (Part.readBy_whole _ _).under ⟨?_, ?_⟩
    · intro members ttls below hmembers hread hbelow
      exact (find?_of_decodeTtls category hmembers hread).1 below hbelow
    · intro members ttls hmembers hread hbelow
      exact (find?_of_decodeTtls category hmembers hread).2 hbelow

end CategoryTtls

namespace FailurePolicy

/-- The parts of the settings of the failure cache. -/
inductive IsPart : Part FailurePolicy → Prop where
  | whole : IsPart (.whole (decode .ignored))
  | enabled : IsPart (.under "enabled" FailurePolicy.enabled (.whole Json.asBool))
  | defaultTtl :
    IsPart (.under "default_ttl" FailurePolicy.defaultTtl (.whole HumanDuration.decode))
  | categoryTtls {part : Part CategoryTtls} (hpart : CategoryTtls.IsPart part) :
    IsPart (part.under "category_ttls" FailurePolicy.categoryTtls)

theorem members_of_decode {members : List (String × Json)} {policy : FailurePolicy}
    (hdecode : decode .ignored (.object members) = .ok policy) :
    let fields := Json.fieldsOf members
    fields.withDefault "enabled" standard.enabled Json.asBool = .ok policy.enabled ∧
      fields.withDefault "default_ttl" standard.defaultTtl HumanDuration.decode =
        .ok policy.defaultTtl ∧
      fields.withDefault "category_ttls" standard.categoryTtls CategoryTtls.read =
        .ok policy.categoryTtls := by
  unfold decode at hdecode
  rw [Json.bind_eq_ok_iff] at hdecode
  obtain ⟨fields, hfields, hdecode⟩ := hdecode
  obtain rfl := Json.eq_fieldsOf_of_record hfields
  rw [Json.bind_eq_ok_iff] at hdecode
  obtain ⟨enabled, henabled, hdecode⟩ := hdecode
  rw [Json.bind_eq_ok_iff] at hdecode
  obtain ⟨defaultTtl, hdefaultTtl, hdecode⟩ := hdecode
  rw [Json.bind_eq_ok_iff] at hdecode
  obtain ⟨categoryTtls, hcategoryTtls, hpolicy⟩ := hdecode
  obtain rfl := Except.ok.inj hpolicy
  exact ⟨henabled, hdefaultTtl, hcategoryTtls⟩

theorem readBy_of_isPart {part : Part FailurePolicy} (hpart : IsPart part) :
    part.ReadBy (decode .ignored) standard := by
  cases hpart with
  | whole => exact Part.readBy_whole _ _
  | enabled =>
    exact (Part.readBy_whole _ _).member fun hdecode ↦ (members_of_decode hdecode).1
  | defaultTtl =>
    exact (Part.readBy_whole _ _).member fun hdecode ↦ (members_of_decode hdecode).2.1
  | categoryTtls hpart =>
    refine Part.ReadBy.member ?_ fun hdecode ↦ (members_of_decode hdecode).2.2
    exact CategoryTtls.readBy_of_isPart hpart

end FailurePolicy

/-! ### The transport -/

namespace TransportSettings

/-- The parts of the settings of the transport. -/
inductive IsPart : Part TransportSettings → Prop where
  | whole : IsPart (.whole decode)
  | requestTimeout :
    IsPart (.under "request_timeout" TransportSettings.requestTimeout
      (.whole HumanDuration.decode))
  | maxBodySize : IsPart (.under "max_body_size" TransportSettings.maxBodySize
      (.whole Json.asNat64))
  | userAgent : IsPart (.under "user_agent" TransportSettings.userAgent (.whole Json.asString))
  | allowInsecureHttp :
    IsPart (.under "allow_insecure_http" TransportSettings.allowInsecureHttp (.whole Json.asBool))

theorem members_of_decode {members : List (String × Json)} {settings : TransportSettings}
    (hdecode : decode (.object members) = .ok settings) :
    let fields := Json.fieldsOf members
    fields.withDefault "request_timeout" standard.requestTimeout HumanDuration.decode =
        .ok settings.requestTimeout ∧
      fields.withDefault "max_body_size" standard.maxBodySize Json.asNat64 =
        .ok settings.maxBodySize ∧
      fields.withDefault "user_agent" standard.userAgent Json.asString = .ok settings.userAgent ∧
      fields.withDefault "allow_insecure_http" standard.allowInsecureHttp Json.asBool =
        .ok settings.allowInsecureHttp := by
  unfold decode at hdecode
  simp only [Json.bind_eq_ok_iff] at hdecode
  obtain ⟨fields, hfields, requestTimeout, hrequestTimeout, maxBodySize, hmaxBodySize, userAgent,
    huserAgent, allowInsecureHttp, hallowInsecureHttp, hsettings⟩ := hdecode
  obtain rfl := Json.eq_fieldsOf_of_record hfields
  obtain rfl := Except.ok.inj hsettings
  exact ⟨hrequestTimeout, hmaxBodySize, huserAgent, hallowInsecureHttp⟩

theorem readBy_of_isPart {part : Part TransportSettings} (hpart : IsPart part) :
    part.ReadBy decode standard := by
  cases hpart with
  | whole => exact Part.readBy_whole _ _
  | requestTimeout =>
    exact (Part.readBy_whole _ _).member fun hdecode ↦ (members_of_decode hdecode).1
  | maxBodySize =>
    exact (Part.readBy_whole _ _).member fun hdecode ↦ (members_of_decode hdecode).2.1
  | userAgent =>
    exact (Part.readBy_whole _ _).member fun hdecode ↦ (members_of_decode hdecode).2.2.1
  | allowInsecureHttp =>
    exact (Part.readBy_whole _ _).member fun hdecode ↦ (members_of_decode hdecode).2.2.2

end TransportSettings

/-! ### Headers by their resolvers -/

namespace ClientSettings

/-- Headers with their resolvers from the members of an object. -/
def readResolvers (texts : Json) : Json.Decoded (List (String × String)) := do
  let members ← Json.asMembers texts
  decodeTexts (Json.sortMembers members)

/-- The parts of the headers with resolvers: the resolver of each header, if there is one. -/
inductive IsResolverPart : Part (List (String × String)) → Prop where
  | whole : IsResolverPart (.whole readResolvers)
  | resolver (header : String) :
    IsResolverPart (.under header (List.lookup header)
      (.whole fun value ↦ (Json.asString value).map some))

theorem lookup_of_decodeTexts (name : String) {members : List (String × Json)}
    {texts : List (String × String)} (hdecode : decodeTexts members = .ok texts) :
    (∀ below, Json.lookup name members = some below →
        (Json.asString below).map some = .ok (List.lookup name texts)) ∧
      (Json.lookup name members = none → List.lookup name texts = none) := by
  induction members generalizing texts with
  | nil =>
    obtain rfl := Except.ok.inj hdecode
    exact ⟨fun below hbelow ↦ absurd hbelow (by simp [Json.lookup]), fun _ ↦ rfl⟩
  | cons member rest ih =>
    obtain ⟨key, value⟩ := member
    unfold decodeTexts at hdecode
    split at hdecode
    · exact absurd hdecode (by simp)
    · next text htext =>
      split at hdecode
      · exact absurd hdecode (by simp)
      · next others hothers =>
        obtain rfl := Except.ok.inj hdecode
        obtain ⟨hsome, hnone⟩ := ih hothers
        rw [Json.lookup]
        by_cases hsame : key = name
        · subst hsame
          have hfirst : List.lookup key ((key, text) :: others) = some text := by
            rw [List.lookup_cons, beq_self_eq_true]
          rw [if_pos rfl, hfirst]
          refine ⟨fun below hbelow ↦ ?_, fun hbelow ↦ absurd hbelow (by simp)⟩
          obtain rfl := Option.some.inj hbelow
          rw [htext]
          rfl
        · have hbehind : List.lookup name ((key, text) :: others) = List.lookup name others := by
            rw [List.lookup_cons, beq_false_of_ne (Ne.symm hsame)]
          rw [if_neg hsame, hbehind]
          exact ⟨hsome, hnone⟩

theorem readBy_of_isResolverPart {part : Part (List (String × String))}
    (hpart : IsResolverPart part) : part.ReadBy readResolvers [] := by
  have hread : ∀ {members : List (String × Json)} {texts : List (String × String)},
      (members.Pairwise fun first second ↦ first.1 < second.1) →
        readResolvers (.object members) = .ok texts → decodeTexts members = .ok texts := by
    intro members texts hmembers htexts
    rw [← Json.sortMembers_eq_self hmembers]
    exact htexts
  cases hpart with
  | whole => exact Part.readBy_whole _ _
  | resolver header =>
    refine (Part.readBy_whole _ _).under ⟨?_, ?_⟩
    · intro members texts below hmembers htexts hbelow
      exact (lookup_of_decodeTexts header (hread hmembers htexts)).1 below hbelow
    · intro members texts hmembers htexts hbelow
      exact (lookup_of_decodeTexts header (hread hmembers htexts)).2 hbelow

/-! ### All parts -/

/-- The parts of the settings of a client that are configured under names of their own, at every
depth. -/
inductive IsPart : Part ClientSettings → Prop where
  | maxUrlLength :
    IsPart (.under "max_url_length" ClientSettings.maxUrlLength (.whole Json.asNat64))
  | logRequests : IsPart (.under "log_requests" ClientSettings.logRequests (.whole Json.asBool))
  | retry {part : Part RetrySettings} (hpart : RetrySettings.IsPart part) :
    IsPart (part.under "retry" ClientSettings.retry)
  | recoverablePatterns :
    IsPart (.under "recoverable_error_patterns" ClientSettings.recoverablePatterns
      (.whole (Json.asList Json.asString)))
  | passthroughHeaders :
    IsPart (.under "passthrough_headers" ClientSettings.passthroughHeaders
      (.whole (Json.asList Json.asString)))
  | contextualHeaders {part : Part (List (String × String))} (hpart : IsResolverPart part) :
    IsPart (part.under "contextual_headers" ClientSettings.contextualHeaders)
  | failurePolicy {part : Part FailurePolicy} (hpart : FailurePolicy.IsPart part) :
    IsPart (part.under "failure_cache" ClientSettings.failurePolicy)
  | transport {part : Part TransportSettings} (hpart : TransportSettings.IsPart part) :
    IsPart (part.under "transport" ClientSettings.transport)

/-- A part is configured under one of the names that the settings know. -/
theorem names_of_isPart {part : Part ClientSettings} (hpart : IsPart part) :
    ∃ name ∈ memberNames, ∃ rest, part.names = name :: rest := by
  unfold memberNames
  cases hpart <;> exact ⟨_, by simp, _, rfl⟩

theorem members_of_decode {members : List (String × Json)} {settings : ClientSettings}
    (hdecode : decode (.object members) = .ok settings) :
    let fields := Json.fieldsOf members
    fields.withDefault "max_url_length" standard.maxUrlLength Json.asNat64 =
        .ok settings.maxUrlLength ∧
      fields.withDefault "log_requests" standard.logRequests Json.asBool =
        .ok settings.logRequests ∧
      fields.withDefault "retry" standard.retry (RetrySettings.decode .ignored) =
        .ok settings.retry ∧
      fields.withDefault "recoverable_error_patterns" standard.recoverablePatterns
        (Json.asList Json.asString) = .ok settings.recoverablePatterns ∧
      fields.withDefault "passthrough_headers" standard.passthroughHeaders
        (Json.asList Json.asString) = .ok settings.passthroughHeaders ∧
      fields.withDefault "contextual_headers" standard.contextualHeaders readResolvers =
        .ok settings.contextualHeaders ∧
      fields.withDefault "failure_cache" standard.failurePolicy (FailurePolicy.decode .ignored) =
        .ok settings.failurePolicy ∧
      fields.withDefault "transport" standard.transport TransportSettings.decode =
        .ok settings.transport := by
  unfold decode at hdecode
  rw [Json.bind_eq_ok_iff] at hdecode
  obtain ⟨fields, hfields, hdecode⟩ := hdecode
  obtain rfl := Json.eq_fieldsOf_of_record hfields
  rw [Json.bind_eq_ok_iff] at hdecode
  obtain ⟨maxUrlLength, hmaxUrlLength, hdecode⟩ := hdecode
  rw [Json.bind_eq_ok_iff] at hdecode
  obtain ⟨logRequests, hlogRequests, hdecode⟩ := hdecode
  rw [Json.bind_eq_ok_iff] at hdecode
  obtain ⟨retry, hretry, hdecode⟩ := hdecode
  rw [Json.bind_eq_ok_iff] at hdecode
  obtain ⟨recoverablePatterns, hrecoverablePatterns, hdecode⟩ := hdecode
  rw [Json.bind_eq_ok_iff] at hdecode
  obtain ⟨passthroughHeaders, hpassthroughHeaders, hdecode⟩ := hdecode
  rw [Json.bind_eq_ok_iff] at hdecode
  obtain ⟨contextualHeaders, hcontextualHeaders, hdecode⟩ := hdecode
  rw [Json.bind_eq_ok_iff] at hdecode
  obtain ⟨failurePolicy, hfailurePolicy, hdecode⟩ := hdecode
  rw [Json.bind_eq_ok_iff] at hdecode
  obtain ⟨transport, htransport, hsettings⟩ := hdecode
  obtain rfl := Except.ok.inj hsettings
  exact ⟨hmaxUrlLength, hlogRequests, hretry, hrecoverablePatterns, hpassthroughHeaders,
    hcontextualHeaders, hfailurePolicy, htransport⟩

theorem readBy_of_isPart {part : Part ClientSettings} (hpart : IsPart part) :
    part.ReadBy decode standard := by
  cases hpart with
  | maxUrlLength =>
    exact (Part.readBy_whole _ _).member fun hdecode ↦ (members_of_decode hdecode).1
  | logRequests =>
    exact (Part.readBy_whole _ _).member fun hdecode ↦ (members_of_decode hdecode).2.1
  | retry hpart =>
    refine Part.ReadBy.member ?_ fun hdecode ↦ (members_of_decode hdecode).2.2.1
    exact RetrySettings.readBy_of_isPart hpart
  | recoverablePatterns =>
    exact (Part.readBy_whole _ _).member fun hdecode ↦ (members_of_decode hdecode).2.2.2.1
  | passthroughHeaders =>
    exact (Part.readBy_whole _ _).member fun hdecode ↦ (members_of_decode hdecode).2.2.2.2.1
  | contextualHeaders hpart =>
    refine Part.ReadBy.member ?_ fun hdecode ↦ (members_of_decode hdecode).2.2.2.2.2.1
    exact readBy_of_isResolverPart hpart
  | failurePolicy hpart =>
    refine Part.ReadBy.member ?_ fun hdecode ↦ (members_of_decode hdecode).2.2.2.2.2.2.1
    exact FailurePolicy.readBy_of_isPart hpart
  | transport hpart =>
    refine Part.ReadBy.member ?_ fun hdecode ↦ (members_of_decode hdecode).2.2.2.2.2.2.2
    exact TransportSettings.readBy_of_isPart hpart

/-- Sections that hold the same under every name that the settings know are decoded alike. -/
theorem decode_congr {first second : List (String × Json)}
    (hfirst : first.Pairwise fun former latter ↦ former.1 < latter.1)
    (hsecond : second.Pairwise fun former latter ↦ former.1 < latter.1)
    (hsame : ∀ name ∈ memberNames, Json.lookup name first = Json.lookup name second) :
    decode (.object first) = decode (.object second) := by
  have hfields : ∀ {members : List (String × Json)},
      (members.Pairwise fun former latter ↦ former.1 < latter.1) →
        Json.record "client settings" memberNames false .ignored (.object members) =
          .ok (Json.fieldsOf members) := by
    intro members hmembers
    unfold Json.record
    dsimp only
    rw [Json.checkMembers_of_ascending memberNames hmembers]
    rfl
  simp only [memberNames, List.forall_mem_cons] at hsame
  obtain ⟨hmaxUrlLength, hlogRequests, hretry, hrecoverablePatterns, hpassthroughHeaders,
    hcontextualHeaders, hfailurePolicy, htransport, -⟩ := hsame
  unfold decode
  rw [hfields hfirst, hfields hsecond]
  simp only [bind, Except.bind, Json.Fields.withDefault, Json.fieldsOf, hmaxUrlLength,
    hlogRequests, hretry, hrecoverablePatterns, hpassthroughHeaders, hcontextualHeaders,
    hfailurePolicy, htransport]

end ClientSettings

end ResourceLookup
