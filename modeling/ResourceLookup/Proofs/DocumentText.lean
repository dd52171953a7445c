import ResourceLookup.Proofs.StoredResources

/-!
# Documents read back

What is read from the value of a body is kept as it was read (`Document.kept_of_decode`): its raw
values are settled, and nested no deeper than they were in the body. A document that is kept is
written as an object that is read as the same document (`Document.Kept.decode_canonical_encode`),
and one without floating point numbers as a text that is (`Document.Kept.ofOctets_encode`). Its
error objects are those of the body (`Document.ErrorsRead`).
-/

set_option autoImplicit false
set_option relaxedAutoImplicit false

namespace ResourceLookup.Document

variable {document : Document} {depth : Nat} {value : Json} {body : List UInt8}
  {written : List (String × Json)}

/-! ### Documents that are kept -/

/-- The raw values of a document. -/
def raws (document : Document) : List Json :=
  document.data.toList.flatMap PrimaryData.raws ++ document.errors.flatMap ErrorObject.raws ++
    document.included.flatMap Resource.raws ++ document.metadata.toList ++ document.links.toList

/-- A list that is written, unless it is empty. -/
def listPart (values : List Json) : Option Json :=
  if values.isEmpty then none else some (.array values)

/-- The parts of an encoded document. -/
def parts (document : Document) : List (String × Option Json) :=
  [("data", document.data.map PrimaryData.encode),
   ("errors", listPart (document.errors.map ErrorObject.encode)),
   ("included", listPart (document.included.map Resource.encode)),
   ("meta", document.metadata), ("links", document.links)]

theorem encode_eq (document : Document) :
    document.encode = .object (presentMembers document.parts) := by
  have hlist : ∀ name values, listMember name values = optionalMember name (listPart values) := by
    intro name values
    cases values <;> rfl
  simp [encode, parts, presentMembers, hlist]

theorem nodup_names_parts (document : Document) : (document.parts.map Prod.fst).Nodup := by
  show memberNames.Nodup
  decide

/-- A document as it is kept. -/
structure Kept (depth : Nat) (document : Document) : Prop where
  data : ∀ data ∈ document.data, data.Kept depth
  errors : ∀ error ∈ document.errors, error.Kept depth
  included : ∀ resource ∈ document.included, resource.Kept depth
  metadata : KeptRaw (depth + 2) document.metadata
  links : KeptRaw (depth + 2) document.links

theorem kept_of_withDefault {α : Type} {decode : Json → Json.Decoded α} {kept : Nat → α → Prop}
    {fields : Json.Fields} {name : String} {data : List α}
    (hkept : ∀ {depth : Nat} {value : Json} {datum : α}, Json.Settled (depth + 1) value →
      decode value = .ok datum → kept depth datum)
    (hsettled : ∀ found, fields.find? name = some found → Json.Settled (depth + 2) found)
    (hread : fields.withDefault name [] (Json.asList decode) = .ok data) :
    ∀ datum ∈ data, kept depth datum := by
  cases hfound : fields.find? name with
  | none =>
    rw [Json.Fields.withDefault_of_absent hfound] at hread
    obtain rfl := Except.ok.inj hread
    exact List.forall_mem_nil _
  | some found =>
    rw [Json.Fields.withDefault_of_find? hfound] at hread
    exact kept_of_asList hkept (hsettled found hfound) hread

/-- A document that is read from a settled value is kept. -/
theorem kept_of_decode (hsettled : Json.Settled (depth + 3) value)
    (hdecode : decode value = .ok document) : document.Kept depth := by
  unfold decode at hdecode
  simp only [Json.bind_eq_ok_iff] at hdecode
  obtain ⟨fields, hfields, data, hdata, errors, herrors, included, hincluded, metadata, hmetadata,
    links, hlinks, hdocument⟩ := hdecode
  obtain rfl := Except.ok.inj hdocument
  have hfind : ∀ {name : String} (found : Json), fields.find? name = some found →
      Json.Settled (depth + 2) found := fun found hfound ↦ hsettled.find? hfields hfound
  refine ⟨fun data hmem ↦ ?_, kept_of_withDefault ErrorObject.kept_of_decode hfind herrors,
    kept_of_withDefault Resource.kept_of_decode hfind hincluded,
    keptRaw_of_optional hfind hmetadata, keptRaw_of_optional hfind hlinks⟩
  obtain ⟨found, hfound, -, hread⟩ := Json.Fields.exists_of_optional hdata hmem
  exact PrimaryData.kept_of_decode (hfind found hfound) hread

theorem withDefault_listPart {α : Type} {decode : Json → Json.Decoded α} {encode : α → Json}
    {fields : Json.Fields} {name : String} {data : List α}
    (hfound : fields.find? name = (listPart (data.map encode)).map Json.canonical)
    (hread : ∀ datum ∈ data, decode (encode datum).canonical = .ok datum) :
    fields.withDefault name [] (Json.asList decode) = .ok data := by
  cases data with
  | nil => exact Json.Fields.withDefault_of_absent hfound
  | cons first rest =>
    rw [Json.Fields.withDefault_of_find? hfound]
    exact asList_canonical hread

/-- A document that is kept reads back from its stored object. -/
theorem Kept.decode_canonical_encode (hkept : document.Kept depth) :
    decode document.encode.canonical = .ok document := by
  obtain ⟨fields, hfields, hfind⟩ :=
    record_presentMembers document.nodup_names_parts "document" memberNames .refused
  simp only [parts, List.forall_mem_cons] at hfind
  obtain ⟨hdata, herrors, hincluded, hmetadata, hlinks, -⟩ := hfind
  have hdataRead : fields.optional "data" PrimaryData.decode = .ok document.data := by
    rw [Option.map_map] at hdata
    exact Json.Fields.optional_map hdata fun data hmem ↦
      ⟨data.canonical_encode_ne_null, (hkept.data data hmem).decode_canonical_encode⟩
  have herrorsRead := withDefault_listPart herrors fun error hmem ↦
    (hkept.errors error hmem).decode_canonical_encode
  have hincludedRead := withDefault_listPart hincluded fun resource hmem ↦
    (hkept.included resource hmem).decode_canonical_encode
  rw [encode_eq, decode, hfields]
  simp only [bind, Except.bind, pure, Except.pure, hdataRead, herrorsRead, hincludedRead,
    hkept.metadata.optional_eq hmetadata, hkept.links.optional_eq hlinks]

theorem plain_listPart {α : Type} {encode : α → Json} {data : List α}
    (hplain : ∀ datum ∈ data, Json.Plain depth (encode datum)) :
    ∀ value ∈ listPart (data.map encode), Json.Plain (depth + 1) value := by
  intro value hvalue
  unfold listPart at hvalue
  split at hvalue
  · cases hvalue
  · obtain rfl := Option.some.inj hvalue
    exact plain_list hplain

/-- The object of a document that is kept, with integers only, is plain. -/
theorem Kept.plain_encode (hkept : document.Kept depth)
    (hintegral : ∀ raw ∈ document.raws, raw.Integral) :
    Json.Plain (depth + 3) document.encode := by
  simp only [raws, List.forall_mem_append, List.forall_mem_flatMap, Option.mem_toList] at hintegral
  obtain ⟨⟨⟨⟨hdata, herrors⟩, hincluded⟩, hmetadata⟩, hlinks⟩ := hintegral
  have hdataPlain : ∀ value ∈ document.data.map PrimaryData.encode,
      Json.Plain (depth + 2) value := by
    intro value hvalue
    obtain ⟨data, hmem, rfl⟩ := Option.map_eq_some_iff.mp hvalue
    exact (hkept.data data hmem).plain_encode (hdata data hmem)
  rw [encode_eq]
  refine plain_presentMembers ?_
  simp only [parts, List.forall_mem_cons]
  exact ⟨hdataPlain,
    plain_listPart fun error hmem ↦ (hkept.errors error hmem).plain_encode (herrors error hmem),
    plain_listPart fun resource hmem ↦
      (hkept.included resource hmem).plain_encode (hincluded resource hmem),
    hkept.metadata.plain hmetadata, hkept.links.plain hlinks, List.forall_mem_nil _⟩

/-! ### Bodies -/

theorem decode_of_ofMembers {members : List (String × Json)}
    (hread : ofMembers members = .ok document) : decode (.object members) = .ok document := by
  unfold ofMembers at hread
  split at hread
  · split at hread
    · next hdecode =>
      obtain rfl := Except.ok.inj hread
      exact hdecode
    · cases hread
  · cases hread

/-- A body that holds a document is blank, or holds the object that the document is read from. -/
theorem exists_of_ofOctets (hread : ofOctets body = .ok document) :
    body.all isEmptyOctet = true ∧ document = empty ∨
      ∃ written, Json.parseOctets body = .ok (.object written) ∧
        decode (Json.object written).canonical = .ok document := by
  unfold ofOctets at hread
  split at hread
  · next hblank => exact .inl ⟨hblank, (Except.ok.inj hread).symm⟩
  · split at hread
    · cases hread
    · next value hparse =>
      split at hread
      · cases hread
      · next members hmembers =>
        obtain ⟨written, rfl⟩ : ∃ written, value = .object written := by
          cases value with
          | object written => exact ⟨written, rfl⟩
          | _ => cases hmembers
        refine .inr ⟨written, hparse, ?_⟩
        rw [Json.eq_object_of_asMembers hmembers]
        exact decode_of_ofMembers hread

/-- The text of an object is not blank. -/
theorem all_isEmptyOctet_compact (members : List (String × Json)) :
    (Text.octets (Json.object members).compact).all isEmptyOctet = false := by
  obtain ⟨text, htext⟩ : ∃ text, Json.write (.object members) = Char.ofNat 0x7B :: text := by
    rcases members with _ | ⟨⟨name, value⟩, members⟩ <;> exact ⟨_, rfl⟩
  rw [Json.compact, Text.octets_ofList, htext, List.flatMap_cons,
    Text.utf8EncodeChar_of_lt (by decide), List.singleton_append, List.all_cons]
  rfl

/-- A document with data, an error object or meta has one of the members that are asked for. -/
theorem any_topLevelMembers
    (hsome : document.data ≠ none ∨ document.errors ≠ [] ∨ document.metadata ≠ none) :
    (topLevelMembers.any fun name ↦ (Json.lookup name (Json.sortMembers
      (Json.canonicalMembers (presentMembers document.parts)))).isSome) = true := by
  have hfind := lookup_canonical_presentMembers document.nodup_names_parts
  simp only [parts, List.forall_mem_cons] at hfind
  obtain ⟨hdata, herrors, -, hmetadata, -⟩ := hfind
  have herrorsSome : document.errors ≠ [] →
      (listPart (document.errors.map ErrorObject.encode)).isSome = true := by
    intro hsome
    cases herrors : document.errors with
    | nil => exact absurd herrors hsome
    | cons first rest => rfl
  simp only [topLevelMembers, List.any_cons, List.any_nil, Bool.or_false, Bool.or_eq_true, parts,
    hdata, herrors, hmetadata, Option.isSome_map]
  exact hsome.imp Option.isSome_iff_ne_none.mpr (.imp herrorsSome Option.isSome_iff_ne_none.mpr)

/-- The text of a document that is kept, with integers only, reads back. -/
theorem Kept.ofOctets_encode (hkept : document.Kept 124)
    (hintegral : ∀ raw ∈ document.raws, raw.Integral)
    (hsome : document.data ≠ none ∨ document.errors ≠ [] ∨ document.metadata ≠ none) :
    ofOctets (Text.octets document.encode.compact) = .ok document := by
  have hparse : Json.parseOctets (Text.octets document.encode.compact) = .ok document.encode := by
    rw [Json.parseOctets, (Text.ofOctets?_eq_some_iff _ _).mpr rfl]
    exact Json.parse_compact (hkept.plain_encode hintegral)
  have hdecode := hkept.decode_canonical_encode
  rw [encode_eq] at hparse hdecode ⊢
  rw [ofOctets, if_neg (by rw [all_isEmptyOctet_compact]; decide), hparse]
  simp only [Json.canonical, Json.asMembers] at hdecode ⊢
  rw [ofMembers, if_pos (any_topLevelMembers hsome), hdecode]

/-- The error objects of a document are read from the last member `errors` of the object in its
body, one from each element and in their order; without that member there are none. -/
def ErrorsRead (written : List (String × Json)) (errors : List ErrorObject) : Prop :=
  match Json.lookup "errors" written.reverse with
  | none => errors = []
  | some value => ∃ elements, value = .array elements ∧
      List.Forall₂ (fun element error ↦ ErrorObject.decode element.canonical = .ok error)
        elements errors

theorem errorsRead_of_decode (hdecode : decode (Json.object written).canonical = .ok document) :
    ErrorsRead written document.errors := by
  have herrors : (Json.fieldsOf (Json.sortMembers (Json.canonicalMembers written))).withDefault
      "errors" [] (Json.asList ErrorObject.decode) = .ok document.errors := by
    unfold decode at hdecode
    simp only [Json.bind_eq_ok_iff, Json.record_canonical] at hdecode
    obtain ⟨fields, hfields, data, -, errors, herrors, included, -, metadata, -, links, -,
      hdocument⟩ := hdecode
    obtain rfl := Except.ok.inj hdocument
    rw [Except.ok.inj hfields]
    exact herrors
  have hfound : (Json.fieldsOf (Json.sortMembers (Json.canonicalMembers written))).find? "errors" =
      (Json.lookup "errors" written.reverse).map Json.canonical := Json.lookup_canonical written
  unfold ErrorsRead
  split
  · next hnone =>
    rw [hnone] at hfound
    rw [Json.Fields.withDefault_of_absent hfound] at herrors
    exact (Except.ok.inj herrors).symm
  · next value hlast =>
    rw [hlast] at hfound
    rw [Json.Fields.withDefault_of_find? hfound] at herrors
    cases value with
    | array elements =>
      rw [Json.canonical, Json.canonicalElements_eq_map, Json.asList, Json.decodeAll_eq_ok_iff,
        List.forall₂_map_left_iff] at herrors
      exact ⟨elements, rfl, herrors⟩
    | _ => cases herrors

/-- A document has error objects exactly if there are elements to read them from. -/
theorem ErrorsRead.hasErrors_iff (hread : ErrorsRead written document.errors) :
    document.hasErrors = true ↔
      ∃ first rest, Json.lookup "errors" written.reverse = some (.array (first :: rest)) := by
  unfold ErrorsRead at hread
  rw [hasErrors]
  generalize document.errors = errors at hread ⊢
  split at hread
  · next hnone => simp [hread, hnone]
  · next value hlast =>
    obtain ⟨elements, rfl, hall⟩ := hread
    rw [hlast]
    cases hall with
    | nil => simp
    | cons hfirst hrest => simp

/-- Documents that are read from bodies. No value is both a collection and a single resource, so
that primary data are read as the one that they are, whichever is tried first. The error objects of
a document are those of the body, so that it has some exactly if the body has. And where all raw
numbers of a document are integers of 64 bits, and it has data, an error object or meta, its text
reads back as the same document. -/
theorem ofOctets_reads (hread : ofOctets body = .ok document) :
    (∀ value resources resource, ¬ (Json.asList Resource.decode value = .ok resources ∧
        Resource.decode value = .ok resource)) ∧
      (∀ value resources, PrimaryData.decode value = .ok (.many resources) ↔
        Json.asList Resource.decode value = .ok resources) ∧
      (∀ value resource, PrimaryData.decode value = .ok (.one resource) ↔
        Resource.decode value = .ok resource) ∧
      (body.all isEmptyOctet = true ∧ document = empty ∨
        ∃ written, Json.parseOctets body = .ok (.object written) ∧
          ErrorsRead written document.errors ∧
          (document.hasErrors = true ↔ ∃ first rest,
            Json.lookup "errors" written.reverse = some (.array (first :: rest)))) ∧
      ((∀ raw ∈ document.raws, raw.Integral) →
        document.data ≠ none ∨ document.errors ≠ [] ∨ document.metadata ≠ none →
          ofOctets (Text.octets document.encode.compact) = .ok document) := by
  refine ⟨fun value resources resource hboth ↦ PrimaryData.not_many_and_one hboth.1 hboth.2,
    fun value resources ↦ PrimaryData.decode_eq_many_iff,
    fun value resource ↦ PrimaryData.decode_eq_one_iff, ?_, fun hintegral hsome ↦ ?_⟩
  · rcases exists_of_ofOctets hread with hblank | ⟨written, hparse, hdecode⟩
    · exact .inl hblank
    · have herrors := errorsRead_of_decode hdecode
      exact .inr ⟨written, hparse, herrors, herrors.hasErrors_iff⟩
  · rcases exists_of_ofOctets hread with ⟨-, rfl⟩ | ⟨written, hparse, hdecode⟩
    · exact absurd hsome (by decide)
    · exact (kept_of_decode (Json.settled_of_parseOctets hparse) hdecode).ofOctets_encode
        hintegral hsome

/-- A body with a resource that is written as an array, two members of one name, and an error
object. -/
def sampleBody : List UInt8 :=
  Text.octets (Json.object
    [("data", .array [.number (.integer 7), .string "books",
       .object [("pages", .number (.integer 300)), ("isbn", .null)]]),
     ("errors", .array []),
     ("errors", .array [.object [("status", .number (.integer 404)), ("meta", .object [])]]),
     ("meta", .array [.number (.integer (-1))])]).compact

/-- What it holds. -/
def sampleDocument : Document where
  data := some (.one
    ⟨"7", "books", [("isbn", .null), ("pages", .number (.integer 300))], none, none, none⟩)
  errors := [⟨none, some "404", none, none, none, none, some (.object [])⟩]
  included := []
  metadata := some (.array [.number (.integer (-1))])
  links := none

theorem ofOctets_reads_sample :
    ofOctets sampleBody = .ok sampleDocument ∧
      (∀ raw ∈ sampleDocument.raws, raw.Integral) ∧
      ofOctets (Text.octets sampleDocument.encode.compact) = .ok sampleDocument := by
  have hread : ofOctets sampleBody = .ok sampleDocument := by decide +kernel
  have hraws : sampleDocument.raws =
    [.null, .number (.integer 300), .object [], .array [.number (.integer (-1))]] := rfl
  have hintegral : ∀ raw ∈ sampleDocument.raws, raw.Integral := by
    have hinteger : ∀ n : Int, -Nat.pow 2 63 ≤ n → n < Nat.pow 2 64 →
        Json.Plain 0 (.number (.integer n)) := fun n hlow hhigh ↦ .integer 0 n hlow hhigh
    rw [hraws]
    simp only [List.forall_mem_cons]
    exact ⟨⟨0, .null 0⟩, ⟨0, hinteger 300 (by decide) (by decide)⟩,
      ⟨1, .object (List.forall_mem_nil _)⟩,
      ⟨1, .array (List.forall_mem_singleton.mpr (hinteger (-1) (by decide) (by decide)))⟩,
      List.forall_mem_nil _⟩
  exact ⟨hread, hintegral, (ofOctets_reads hread).2.2.2.2 hintegral (.inl (by decide))⟩

end ResourceLookup.Document
