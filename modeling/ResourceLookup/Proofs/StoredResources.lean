import ResourceLookup.Document.Basic
import ResourceLookup.Proofs.SettledJson

/-!
# Resources read back

Resources and error objects are written as objects whose members are optional (`presentMembers`).
Such an object, once it is stored, is read as a record that has each of its parts
(`record_presentMembers`), so that everything that is kept as it was read reads back
(`Resource.Kept.decode_canonical_encode` and its like), and it is nested no deeper than what it was
read from (`Resource.Kept.plain_encode` and its like).

A resource may be written as an array, and so is a collection; but the one begins with a text or a
number, and the other consists of resources, which are neither (`PrimaryData.not_many_and_one`).
-/

set_option autoImplicit false
set_option relaxedAutoImplicit false

namespace ResourceLookup

/-! ### Objects with optional members -/

/-- The members of those parts that are there. -/
def presentMembers (parts : List (String × Option Json)) : List (String × Json) :=
  parts.flatMap fun part ↦ optionalMember part.1 part.2

section Parts

variable {parts : List (String × Option Json)} {depth : Nat}

theorem lookup_optionalMember (name key : String) (value? : Option Json) :
    Json.lookup name (optionalMember key value?) = if key = name then value? else none := by
  cases value? with
  | none => exact (ite_self none).symm
  | some value => rfl

theorem sublist_names_presentMembers (parts : List (String × Option Json)) :
    ((presentMembers parts).map Prod.fst).Sublist (parts.map Prod.fst) := by
  induction parts with
  | nil => exact .slnil
  | cons part rest ih =>
    obtain ⟨name, _ | value⟩ := part
    · exact ih.cons name
    · exact ih.cons_cons name

/-- Among parts of distinct names each is found under its own, if it is there. -/
theorem lookup_presentMembers (hnames : (parts.map Prod.fst).Nodup) :
    ∀ part ∈ parts, Json.lookup part.1 (presentMembers parts) = part.2 := by
  induction parts with
  | nil => exact List.forall_mem_nil _
  | cons first rest ih =>
    obtain ⟨key, value?⟩ := first
    rw [List.map_cons, List.nodup_cons] at hnames
    have hsplit : presentMembers ((key, value?) :: rest) =
      optionalMember key value? ++ presentMembers rest := rfl
    have hbehind : Json.lookup key (presentMembers rest) = none :=
      Json.lookup_eq_none_of_forall_ne fun member hmember hname ↦
        hnames.1 (hname ▸ (sublist_names_presentMembers rest).subset (List.mem_map_of_mem hmember))
    refine List.forall_mem_cons.mpr ⟨?_, fun part hpart ↦ ?_⟩
    · rw [hsplit, Json.lookup_append, lookup_optionalMember, if_pos rfl, hbehind, Option.or_none]
    · have hother : key ≠ part.1 := fun hname ↦
        hnames.1 (List.mem_map.mpr ⟨part, hpart, hname.symm⟩)
      rw [hsplit, Json.lookup_append, lookup_optionalMember, if_neg hother, Option.none_or,
        ih hnames.2 part hpart]

/-- An object of such parts that is stored has each of them. -/
theorem lookup_canonical_presentMembers (hnames : (parts.map Prod.fst).Nodup) :
    ∀ part ∈ parts, Json.lookup part.1
      (Json.sortMembers (Json.canonicalMembers (presentMembers parts))) =
        part.2.map Json.canonical := by
  intro part hpart
  rw [Json.lookup_canonical, Json.lookup_reverse
    ((sublist_names_presentMembers parts).nodup hnames), lookup_presentMembers hnames part hpart]

/-- It is read as a record that has each of them. -/
theorem record_presentMembers (hnames : (parts.map Prod.fst).Nodup) (type : String)
    (known : List String) (surplus : Json.Surplus) :
    ∃ fields, Json.record type known false surplus
        (Json.object (presentMembers parts)).canonical = .ok fields ∧
      ∀ part ∈ parts, fields.find? part.1 = part.2.map Json.canonical :=
  ⟨_, Json.record_canonical known surplus, lookup_canonical_presentMembers hnames⟩

theorem plain_presentMembers
    (hparts : ∀ part ∈ parts, ∀ value ∈ part.2, Json.Plain depth value) :
    Json.Plain (depth + 1) (.object (presentMembers parts)) := by
  refine .object fun member hmember ↦ ?_
  obtain ⟨⟨name, value?⟩, hpart, hmember⟩ := List.mem_flatMap.mp hmember
  cases value? with
  | none => cases hmember
  | some value =>
    obtain rfl := List.mem_singleton.mp hmember
    exact hparts _ hpart value rfl

end Parts

/-! ### Raw values that are kept -/

/-- A raw value as it is kept, if there is one: settled, and not `null`. -/
def KeptRaw (depth : Nat) (raw? : Option Json) : Prop :=
  ∀ raw ∈ raw?, Json.Settled depth raw ∧ raw ≠ .null

section Raw

variable {fields : Json.Fields} {name : String} {depth : Nat}

/-- A raw value that is read from a settled one is kept as it was. -/
theorem keptRaw_of_optional {raw? : Option Json}
    (hsettled : ∀ found, fields.find? name = some found → Json.Settled depth found)
    (hread : fields.optional name asRaw = .ok raw?) : KeptRaw depth raw? := by
  intro raw hraw
  obtain ⟨value, hfound, hvalue, hdecode⟩ := Json.Fields.exists_of_optional hread hraw
  have hkept := hsettled value hfound
  have hsame : value.canonical = raw := Except.ok.inj hdecode
  rw [hkept.canonical_eq] at hsame
  exact hsame ▸ ⟨hkept, hvalue⟩

/-- A raw value that is kept reads back. -/
theorem KeptRaw.optional_eq {raw? : Option Json} (hraw : KeptRaw depth raw?)
    (hfound : fields.find? name = raw?.map Json.canonical) :
    fields.optional name asRaw = .ok raw? := by
  refine Json.Fields.optional_map hfound fun raw hmem ↦ ?_
  obtain ⟨hsettled, hvalue⟩ := hraw raw hmem
  rw [asRaw, hsettled.canonical_eq, hsettled.canonical_eq]
  exact ⟨hvalue, rfl⟩

/-- A text reads back, whether a number would be read as well or not. -/
theorem optional_text {text? : Option String} {decode : Json → Json.Decoded String}
    (hdecode : ∀ text, decode (.string text) = .ok text)
    (hfound : fields.find? name = (text?.map Json.string).map Json.canonical) :
    fields.optional name decode = .ok text? := by
  rw [Option.map_map] at hfound
  exact Json.Fields.optional_map hfound fun text _ ↦ ⟨nofun, hdecode text⟩

theorem plain_text (text? : Option String) :
    ∀ value ∈ text?.map Json.string, Json.Plain depth value := by
  intro value hvalue
  obtain ⟨text, -, rfl⟩ := Option.map_eq_some_iff.mp hvalue
  exact .string depth text

theorem KeptRaw.plain {raw? : Option Json} (hraw : KeptRaw depth raw?)
    (hintegral : ∀ raw ∈ raw?, raw.Integral) :
    ∀ raw ∈ raw?, Json.Plain depth raw :=
  fun raw hmem ↦ (hraw raw hmem).1.plain (hintegral raw hmem)

end Raw

/-! ### Lists that are kept -/

section Lists

variable {α : Type} {decode : Json → Json.Decoded α} {encode : α → Json}

/-- What is read from the elements of a settled list is kept, if what is read from each is. -/
theorem kept_of_asList {kept : Nat → α → Prop} {depth : Nat} {value : Json} {data : List α}
    (hkept : ∀ {depth : Nat} {value : Json} {datum : α}, Json.Settled (depth + 1) value →
      decode value = .ok datum → kept depth datum)
    (hsettled : Json.Settled (depth + 2) value) (hread : Json.asList decode value = .ok data) :
    ∀ datum ∈ data, kept depth datum := by
  cases hsettled with
  | array helements =>
    induction Json.decodeAll_eq_ok_iff.mp hread with
    | nil => exact List.forall_mem_nil _
    | cons hfirst hrest ih =>
      rw [List.forall_mem_cons] at helements
      exact List.forall_mem_cons.mpr
        ⟨hkept helements.1 hfirst, ih helements.2 (Json.decodeAll_eq_ok_iff.mpr hrest)⟩
  | _ => cases hread

/-- A list reads back from its stored array if each of its elements does. -/
theorem asList_canonical {data : List α}
    (hread : ∀ datum ∈ data, decode (encode datum).canonical = .ok datum) :
    Json.asList decode (Json.array (data.map encode)).canonical = .ok data := by
  rw [Json.canonical, Json.canonicalElements_eq_map, List.map_map]
  exact Json.decodeAll_map hread

theorem plain_list {depth : Nat} {data : List α}
    (hplain : ∀ datum ∈ data, Json.Plain depth (encode datum)) :
    Json.Plain (depth + 1) (.array (data.map encode)) :=
  .array (List.forall_mem_map.mpr hplain)

end Lists

/-! ### Resources -/

namespace Resource

variable {resource : Resource} {depth : Nat} {value : Json}

/-- The raw values of a resource. -/
def raws (resource : Resource) : List Json :=
  resource.attributes.map Prod.snd ++
    (resource.relationships.toList ++ resource.links.toList ++ resource.metadata.toList)

/-- The parts of an encoded resource. -/
def parts (resource : Resource) : List (String × Option Json) :=
  [("id", some (.string resource.id)), ("type", some (.string resource.kind)),
   ("attributes", if resource.attributes.isEmpty then none else some (.object resource.attributes)),
   ("relationships", resource.relationships), ("links", resource.links),
   ("meta", resource.metadata)]

theorem encode_eq (resource : Resource) :
    resource.encode = .object (presentMembers resource.parts) := by
  rw [encode, parts]
  cases resource.attributes <;> simp [presentMembers, optionalMember]

/-- A resource as it is kept: its attributes ascend, and its raw values are kept as they were
read. -/
structure Kept (depth : Nat) (resource : Resource) : Prop where
  attributes : resource.attributes ≠ [] → Json.Settled depth (.object resource.attributes)
  relationships : KeptRaw depth resource.relationships
  links : KeptRaw depth resource.links
  metadata : KeptRaw depth resource.metadata

/-- A resource that is read from a settled value is kept. -/
theorem kept_of_decode (hsettled : Json.Settled (depth + 1) value)
    (hdecode : decode value = .ok resource) : resource.Kept depth := by
  unfold decode at hdecode
  simp only [Json.bind_eq_ok_iff] at hdecode
  obtain ⟨fields, hfields, id, -, kind, -, attributes, hattributes, relationships, hrelationships,
    links, hlinks, metadata, hmetadata, hresource⟩ := hdecode
  obtain rfl := Except.ok.inj hresource
  have hfind : ∀ {name : String} (found : Json), fields.find? name = some found →
      Json.Settled depth found := fun found hfound ↦ hsettled.find? hfields hfound
  refine ⟨fun hsome ↦ ?_, keptRaw_of_optional hfind hrelationships,
    keptRaw_of_optional hfind hlinks, keptRaw_of_optional hfind hmetadata⟩
  cases hfound : fields.find? "attributes" with
  | none =>
    rw [Json.Fields.withDefault_of_absent hfound] at hattributes
    exact absurd (Except.ok.inj hattributes).symm hsome
  | some found =>
    rw [Json.Fields.withDefault_of_find? hfound] at hattributes
    obtain ⟨members, hmembers, hsorted⟩ := Json.bind_eq_ok_iff.mp hattributes
    obtain rfl := Json.eq_object_of_asMembers hmembers
    have hkept := hfind _ hfound
    have hsame := hkept.canonical_eq
    rw [Json.canonical, Except.ok.inj hsorted] at hsame
    exact hsame ▸ hkept

theorem nodup_names_parts (resource : Resource) : (resource.parts.map Prod.fst).Nodup := by
  show memberNames.Nodup
  decide

/-- A resource that is kept reads back from its stored object. -/
theorem Kept.decode_canonical_encode (hkept : resource.Kept depth) :
    decode resource.encode.canonical = .ok resource := by
  obtain ⟨fields, hfields, hfind⟩ :=
    record_presentMembers resource.nodup_names_parts "resource" memberNames .refused
  simp only [parts, List.forall_mem_cons] at hfind
  obtain ⟨hid, hkind, hattributes, hrelationships, hlinks, hmetadata, -⟩ := hfind
  have hidRead : fields.required "id" asTextOrNumber = .ok resource.id :=
    Json.Fields.required_of_find? hid
  have hkindRead : fields.required "type" Json.asString = .ok resource.kind :=
    Json.Fields.required_of_find? hkind
  have hattributesRead : (fields.withDefault "attributes" [] fun attributes ↦ do
      let members ← Json.asMembers attributes
      pure (Json.sortMembers (Json.canonicalMembers members))) = .ok resource.attributes := by
    by_cases hnone : resource.attributes = []
    · rw [hnone] at hattributes ⊢
      exact Json.Fields.withDefault_of_absent hattributes
    · have hsame := (hkept.attributes hnone).canonical_eq
      rw [if_neg (by simpa using hnone), Option.map_some, hsame] at hattributes
      rw [Json.Fields.withDefault_of_find? hattributes]
      exact congrArg Except.ok (Json.object.inj hsame)
  rw [encode_eq, decode, hfields]
  simp only [bind, Except.bind, pure, Except.pure] at hattributesRead ⊢
  rw [hidRead, hkindRead]
  simp only [hattributesRead, hkept.relationships.optional_eq hrelationships,
    hkept.links.optional_eq hlinks, hkept.metadata.optional_eq hmetadata]

theorem Kept.plain_attributes (hkept : resource.Kept depth) (hsome : resource.attributes ≠ [])
    (hintegral : ∀ member ∈ resource.attributes, member.2.Integral) :
    Json.Plain depth (.object resource.attributes) := by
  cases hkept.attributes hsome with
  | object _ hmembers =>
    exact .object fun member hmem ↦ (hmembers member hmem).plain (hintegral member hmem)

/-- The object of a resource that is kept, with integers only, is plain. -/
theorem Kept.plain_encode (hkept : resource.Kept depth)
    (hintegral : ∀ raw ∈ resource.raws, raw.Integral) :
    Json.Plain (depth + 1) resource.encode := by
  simp only [raws, List.forall_mem_append, List.forall_mem_map, Option.mem_toList] at hintegral
  obtain ⟨hattributes, ⟨hrelationships, hlinks⟩, hmetadata⟩ := hintegral
  have hplain : ∀ value ∈ if resource.attributes.isEmpty then none
      else some (Json.object resource.attributes), Json.Plain depth value := by
    intro value hvalue
    split at hvalue
    · cases hvalue
    · next hsome =>
      obtain rfl := Option.some.inj hvalue
      exact hkept.plain_attributes (by simpa using hsome) hattributes
  rw [encode_eq]
  refine plain_presentMembers ?_
  simp only [parts, List.forall_mem_cons, Option.mem_def, Option.some.injEq, forall_eq']
  exact ⟨.string _ _, .string _ _, hplain, hkept.relationships.plain hrelationships,
    hkept.links.plain hlinks, hkept.metadata.plain hmetadata, List.forall_mem_nil _⟩

end Resource

/-! ### Error objects -/

namespace ErrorObject

variable {error : ErrorObject} {depth : Nat} {value : Json}

/-- The raw values of an error object. -/
def raws (error : ErrorObject) : List Json :=
  error.source.toList ++ error.metadata.toList

/-- The parts of an encoded error object. -/
def parts (error : ErrorObject) : List (String × Option Json) :=
  [("id", error.id.map .string), ("status", error.status.map .string),
   ("code", error.code.map .string), ("title", error.title.map .string),
   ("detail", error.detail.map .string), ("source", error.source), ("meta", error.metadata)]

theorem encode_eq (error : ErrorObject) :
    error.encode = .object (presentMembers error.parts) := by
  simp [encode, parts, presentMembers, textMember]

theorem nodup_names_parts (error : ErrorObject) : (error.parts.map Prod.fst).Nodup := by
  show memberNames.Nodup
  decide

/-- An error object as it is kept: its raw values are kept as they were read. -/
structure Kept (depth : Nat) (error : ErrorObject) : Prop where
  source : KeptRaw depth error.source
  metadata : KeptRaw depth error.metadata

/-- An error object that is read from a settled value is kept. -/
theorem kept_of_decode (hsettled : Json.Settled (depth + 1) value)
    (hdecode : decode value = .ok error) : error.Kept depth := by
  unfold decode at hdecode
  simp only [Json.bind_eq_ok_iff] at hdecode
  obtain ⟨fields, hfields, id, -, status, -, code, -, title, -, detail, -, source, hsource,
    metadata, hmetadata, herror⟩ := hdecode
  obtain rfl := Except.ok.inj herror
  have hfind : ∀ {name : String} (found : Json), fields.find? name = some found →
      Json.Settled depth found := fun found hfound ↦ hsettled.find? hfields hfound
  exact ⟨keptRaw_of_optional hfind hsource, keptRaw_of_optional hfind hmetadata⟩

/-- An error object that is kept reads back from its stored object. -/
theorem Kept.decode_canonical_encode (hkept : error.Kept depth) :
    decode error.encode.canonical = .ok error := by
  obtain ⟨fields, hfields, hfind⟩ :=
    record_presentMembers error.nodup_names_parts "error object" memberNames .refused
  simp only [parts, List.forall_mem_cons] at hfind
  obtain ⟨hid, hstatus, hcode, htitle, hdetail, hsource, hmetadata, -⟩ := hfind
  have htext : ∀ text, Json.asString (.string text) = .ok text := fun _ ↦ rfl
  have htextOrNumber : ∀ text, asTextOrNumber (.string text) = .ok text := fun _ ↦ rfl
  rw [encode_eq, decode, hfields]
  simp only [bind, Except.bind, pure, Except.pure, optional_text htext hid,
    optional_text htextOrNumber hstatus, optional_text htext hcode, optional_text htext htitle,
    optional_text htext hdetail, hkept.source.optional_eq hsource,
    hkept.metadata.optional_eq hmetadata]

theorem Kept.plain_encode (hkept : error.Kept depth)
    (hintegral : ∀ raw ∈ error.raws, raw.Integral) :
    Json.Plain (depth + 1) error.encode := by
  simp only [raws, List.forall_mem_append, Option.mem_toList] at hintegral
  rw [encode_eq]
  refine plain_presentMembers ?_
  simp only [parts, List.forall_mem_cons]
  exact ⟨plain_text _, plain_text _, plain_text _, plain_text _, plain_text _,
    hkept.source.plain hintegral.1, hkept.metadata.plain hintegral.2, List.forall_mem_nil _⟩

end ErrorObject

/-! ### Primary data -/

namespace PrimaryData

variable {value : Json} {resources : List Resource} {resource : Resource} {depth : Nat}

/-- A resource that is written as an array begins with a text or a number. -/
theorem exists_id_of_decode_array {elements : List Json}
    (hone : Resource.decode (.array elements) = .ok resource) :
    ∃ first rest id, elements = first :: rest ∧ asTextOrNumber first = .ok id := by
  unfold Resource.decode at hone
  obtain ⟨fields, hfields, hone⟩ := Json.bind_eq_ok_iff.mp hone
  obtain ⟨id, hid, -⟩ := Json.bind_eq_ok_iff.mp hone
  unfold Json.record at hfields
  dsimp only at hfields
  split at hfields
  · cases hfields
  · obtain rfl := Except.ok.inj hfields
    cases elements with
    | nil => cases hid
    | cons first rest => exact ⟨first, rest, id, rfl, hid⟩

/-- A text or a number is no resource. -/
theorem decode_ne_ok_of_id {id : String} (hid : asTextOrNumber value = .ok id) :
    Resource.decode value ≠ .ok resource := by
  intro hdecode
  unfold Resource.decode at hdecode
  obtain ⟨fields, hfields, -⟩ := Json.bind_eq_ok_iff.mp hdecode
  cases value with
  | string text => cases hfields
  | number number => cases hfields
  | _ => cases hid

/-- No value is both a collection and a single resource. -/
theorem not_many_and_one (hmany : Json.asList Resource.decode value = .ok resources)
    (hone : Resource.decode value = .ok resource) : False := by
  cases value with
  | array elements =>
    obtain ⟨first, rest, id, rfl, hid⟩ := exists_id_of_decode_array hone
    obtain ⟨other, -, hother, -⟩ :=
      List.forall₂_cons_left_iff.mp (Json.decodeAll_eq_ok_iff.mp hmany)
    exact decode_ne_ok_of_id hid hother
  | _ => cases hmany

theorem decode_eq_many_iff :
    decode value = .ok (.many resources) ↔ Json.asList Resource.decode value = .ok resources := by
  unfold decode
  cases hmany : Json.asList Resource.decode value with
  | ok others => simp
  | error mismatch =>
    refine ⟨fun hdecode ↦ ?_, nofun⟩
    dsimp only at hdecode
    split at hdecode <;> cases hdecode

theorem decode_eq_one_iff :
    decode value = .ok (.one resource) ↔ Resource.decode value = .ok resource := by
  unfold decode
  cases hmany : Json.asList Resource.decode value with
  | ok others => exact ⟨nofun, fun hone ↦ (not_many_and_one hmany hone).elim⟩
  | error mismatch =>
    cases hone : Resource.decode value with
    | ok other => simp
    | error mismatch => exact ⟨nofun, nofun⟩

/-- Primary data as they are kept. A collection is one level deeper than a single resource. -/
def Kept (depth : Nat) : PrimaryData → Prop
  | many resources => ∀ resource ∈ resources, resource.Kept depth
  | one resource => resource.Kept (depth + 1)

/-- Primary data that are read from a settled value are kept. -/
theorem kept_of_decode {data : PrimaryData} (hsettled : Json.Settled (depth + 2) value)
    (hdecode : decode value = .ok data) : data.Kept depth := by
  cases data with
  | many resources =>
    exact kept_of_asList Resource.kept_of_decode hsettled (decode_eq_many_iff.mp hdecode)
  | one resource => exact Resource.kept_of_decode hsettled (decode_eq_one_iff.mp hdecode)

/-- Primary data that are kept read back from their stored value. -/
theorem Kept.decode_canonical_encode {data : PrimaryData} (hkept : data.Kept depth) :
    decode data.encode.canonical = .ok data := by
  cases data with
  | many resources =>
    rw [decode_eq_many_iff, encode]
    exact asList_canonical fun resource hmem ↦ (hkept resource hmem).decode_canonical_encode
  | one resource =>
    exact decode_eq_one_iff.mpr (Resource.Kept.decode_canonical_encode hkept)

theorem canonical_encode_ne_null (data : PrimaryData) : data.encode.canonical ≠ .null := by
  cases data <;> simp [encode, Resource.encode, Json.canonical]

/-- The raw values of primary data. -/
def raws (data : PrimaryData) : List Json :=
  data.resources.flatMap Resource.raws

theorem Kept.plain_encode {data : PrimaryData} (hkept : data.Kept depth)
    (hintegral : ∀ raw ∈ data.raws, raw.Integral) :
    Json.Plain (depth + 2) data.encode := by
  simp only [raws, List.forall_mem_flatMap] at hintegral
  cases data with
  | many resources =>
    exact plain_list fun resource hmem ↦
      (hkept resource hmem).plain_encode (hintegral resource hmem)
  | one resource =>
    exact Resource.Kept.plain_encode hkept (hintegral resource List.mem_cons_self)

end PrimaryData

end ResourceLookup
