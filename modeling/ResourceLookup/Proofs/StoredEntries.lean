import ResourceLookup.Error
import ResourceLookup.Failure.Cache
import ResourceLookup.Proofs.JsonText
import ResourceLookup.Proofs.TimestampText

/-!
# Stored entries read back

An entry of a failed lookup outlives the program as a text. The text of an entry reads back as the
same entry (`FailureEntry.ofJson?_of_toJson?`), so that it expires at the same time and is
classified as the failure was for which it was made.

The text is that of an object whose members are all known, which is read like any JSON text
(`Json.parseRecord?_compact`), and the values of its members are decoded one by one, the time among
them (`FailureEntry.decode_members`).
-/

set_option autoImplicit false
set_option relaxedAutoImplicit false

namespace ResourceLookup

namespace Json

/-! ### Records whose members are all known -/

section Records

variable {known : List String} {budget steps : Nat} {name : String} {value : Json}
  {text rest : List Char} {read : List (String × Json)}

theorem readKnown?_close (first : Bool) :
    readKnown? known budget (steps + 1) first read (Char.ofNat 0x7D :: rest) =
      some (read.reverse, rest) := by
  rw [readKnown?, skipSpace_cons (by decide)]
  rfl

theorem readIfKnown?_of_mem (hname : name ∈ known)
    (hvalue : readValue budget (nestingLimit - 1) text = .ok (value, rest)) :
    readIfKnown? known budget name text = some (some value, rest) := by
  rw [readIfKnown?, if_pos (List.contains_iff_mem.mpr hname), hvalue]

theorem readKnown?_first (hname : name ∈ known)
    (hvalue : readValue budget (nestingLimit - 1) text = .ok (value, rest)) :
    readKnown? known budget (steps + 1) true read (writeString name ++ ':' :: text) =
      readKnown? known budget steps false ((name, value) :: read) rest := by
  have hclose : ('"'.toNat == 0x7D) = false := by decide
  rw [writeString, List.cons_append, List.append_assoc, List.singleton_append, readKnown?,
    skipSpace_cons (by decide)]
  simp only [hclose, Bool.false_eq_true, if_false, if_true, readString_writeString, readColon_cons,
    Except.toOption, Option.bind_eq_bind, Option.bind_some, readIfKnown?_of_mem hname hvalue]

theorem readKnown?_next (hname : name ∈ known)
    (hvalue : readValue budget (nestingLimit - 1) text = .ok (value, rest)) :
    readKnown? known budget (steps + 1) false read (',' :: (writeString name ++ ':' :: text)) =
      readKnown? known budget steps false ((name, value) :: read) rest := by
  have hclose : (','.toNat == 0x7D) = false := by decide
  rw [writeString, List.cons_append, List.append_assoc, List.singleton_append, readKnown?,
    skipSpace_cons (by decide)]
  simp only [hclose, Bool.false_eq_true, if_false, if_true, beq_self_eq_true,
    skipSpace_cons (by decide : isSpace '"' = false), readString_writeString, readColon_cons,
    Except.toOption, Option.bind_eq_bind, Option.bind_some, readIfKnown?_of_mem hname hvalue]

/-- The known members behind the first one read back. -/
theorem readKnown?_writeMembers {members : List (String × Json)}
    (hknown : ∀ member ∈ members, member.1 ∈ known)
    (hplain : ∀ member ∈ members, Plain (nestingLimit - 1) member.2)
    (hbudget : (writeMembers members).length ≤ budget)
    (hsteps : (writeMembers members).length ≤ steps) :
    readKnown? known budget steps false read (writeMembers members ++ rest) =
      some (read.reverse ++ members, rest) := by
  induction members generalizing read steps with
  | nil =>
    obtain ⟨steps, rfl⟩ := Nat.exists_eq_add_of_le' hsteps
    rw [List.append_nil]
    exact readKnown?_close false
  | cons member members ih =>
    obtain ⟨name, value⟩ := member
    rw [writeMembers, List.length_cons, List.length_append, List.length_cons,
      List.length_append] at hsteps hbudget
    obtain ⟨steps, rfl⟩ : ∃ fewer, steps = fewer + 1 := ⟨steps - 1, by omega⟩
    have hread := readValue_write (hplain (name, value) List.mem_cons_self) budget _
      (show (write value).length ≤ budget by omega) (endsNumber_writeMembers members rest)
    rw [writeMembers, List.cons_append, List.append_assoc, List.cons_append, List.append_assoc,
      readKnown?_next (hknown (name, value) List.mem_cons_self) hread,
      ih (fun other hother ↦ hknown other (List.mem_cons_of_mem _ hother))
        (fun other hother ↦ hplain other (List.mem_cons_of_mem _ hother)) (by omega) (by omega),
      List.reverse_cons, List.append_assoc, List.singleton_append]

/-- The known members of an object read back, behind its opening brace. -/
theorem readKnown?_writeObject {members : List (String × Json)}
    (hknown : ∀ member ∈ members, member.1 ∈ known)
    (hplain : ∀ member ∈ members, Plain (nestingLimit - 1) member.2) {text : List Char}
    (htext : write (.object members) = Char.ofNat 0x7B :: text)
    (hbudget : text.length < budget) (hsteps : text.length < steps) :
    readKnown? known budget steps true [] text = some (members, []) := by
  obtain ⟨steps, rfl⟩ : ∃ fewer, steps = fewer + 1 := ⟨steps - 1, by omega⟩
  rcases members with _ | ⟨⟨name, value⟩, members⟩
  · obtain rfl : [Char.ofNat 0x7D] = text := (List.cons.inj htext).2
    exact readKnown?_close true
  · rw [write] at htext
    obtain rfl := (List.cons.inj htext).2
    simp only [List.length_append, List.length_cons] at hbudget hsteps
    have hread := readValue_write (hplain (name, value) List.mem_cons_self) budget _
      (show (write value).length ≤ budget by omega) (endsNumber_writeMembers members [])
    have hbehind := @readKnown?_writeMembers known budget steps [] [(name, value)] members
      (fun other hother ↦ hknown other (List.mem_cons_of_mem _ hother))
      (fun other hother ↦ hplain other (List.mem_cons_of_mem _ hother)) (by omega) (by omega)
    rw [List.append_nil] at hread hbehind
    rw [readKnown?_first (hknown (name, value) List.mem_cons_self) hread, hbehind]
    rfl

/-- The text of an object whose members are all known reads back as the object. -/
theorem parseRecord?_compact {members : List (String × Json)}
    (hknown : ∀ member ∈ members, member.1 ∈ known)
    (hplain : ∀ member ∈ members, Plain (nestingLimit - 1) member.2) :
    parseRecord? known (Json.object members).compact = some (.object members) := by
  obtain ⟨text, htext⟩ : ∃ text, write (.object members) = Char.ofNat 0x7B :: text := by
    rcases members with _ | ⟨⟨name, value⟩, members⟩ <;> exact ⟨_, rfl⟩
  have hread := fun budget hbudget ↦
    @readKnown?_writeObject known budget budget members hknown hplain text htext hbudget hbudget
  have hlength : (write (.object members)).length = text.length + 1 := by
    rw [htext, List.length_cons]
  simp only [parseRecord?, compact, String.toList_ofList, htext,
    skipSpace_cons (by decide : isSpace (Char.ofNat 0x7B) = false)]
  rw [if_pos (by decide), hread _ (by rw [List.length_cons]; omega)]
  rfl

end Records

end Json

namespace FailureEntry

/-! ### The members of an entry -/

theorem asNatBelow_ofNat {bound n : Nat} (type : String) (hn : n < bound) :
    Json.asNatBelow bound type (Json.ofNat n) = .ok n := by
  have hfits : (decide (0 ≤ (n : Int)) && decide ((n : Int).toNat < bound)) = true := by
    simp [hn]
  rw [Json.ofNat, Json.asNatBelow, if_pos hfits, Int.toNat_natCast]

theorem decode_name (category : FailureCategory) :
    FailureCategory.decode (.string category.name) = .ok category := by
  rw [FailureCategory.decode, FailureCategory.decodeName, FailureCategory.named?_name]

/-- The numbers of an entry fit into their types: a status has 16 bits and a lifetime 64. -/
structure HasFittingNumbers (entry : FailureEntry) : Prop where
  status : ∀ status ∈ entry.httpStatus, status < Nat.pow 2 16
  lifetime : entry.ttlSeconds < Nat.pow 2 64

variable {entry : FailureEntry}

theorem asOption_httpStatus (hfits : entry.HasFittingNumbers) :
    Json.asOption Json.asNat16 (Json.ofOption Json.ofNat entry.httpStatus) =
      .ok entry.httpStatus := by
  have hstatus := hfits.status
  cases hstatusOf : entry.httpStatus with
  | none => rfl
  | some status =>
    have hread : Json.asNat16 (Json.ofNat status) = .ok status :=
      asNatBelow_ofNat _ (hstatus status hstatusOf)
    show (Json.asNat16 (Json.ofNat status)).map some = .ok (some status)
    rw [hread]
    rfl

/-- The members of an encoded entry, its time told by a text. -/
def members (entry : FailureEntry) (time : String) : List (String × Json) :=
  [("cached_at", .string time),
   ("repository", .string entry.repository),
   ("lookup_type", .string entry.lookupType),
   ("identifiers", Json.ofStrings entry.identifiers),
   ("error_type", .string entry.errorType),
   ("message", .string entry.message),
   ("http_status", Json.ofOption Json.ofNat entry.httpStatus),
   ("category", .string entry.category.name),
   ("ttl_secs", Json.ofNat entry.ttlSeconds)]

theorem encode?_eq_some_iff {value : Json} :
    entry.encode? = some value ↔
      ∃ time, entry.cachedAt.write? = some time ∧ value = .object (entry.members time) := by
  rw [encode?, Option.map_eq_some_iff]
  exact exists_congr fun time ↦ and_congr_right fun _ ↦ eq_comm

theorem map_fst_members (time : String) : (entry.members time).map Prod.fst = memberNames :=
  rfl

/-- The encoded entry decodes to the entry. -/
theorem decode_members (hfits : entry.HasFittingNumbers) {time : String}
    (htime : entry.cachedAt.write? = some time) :
    decode (.object (entry.members time)) = .ok entry := by
  let fields : Json.Fields := ⟨fun name ↦ Json.lookup name (entry.members time)⟩
  have hrecord : Json.record "failure entry" memberNames false .refused
      (.object (entry.members time)) = .ok fields := rfl
  have hcachedAt : fields.required "cached_at" Timestamp.decode = .ok entry.cachedAt := by
    show Timestamp.decode (.string time) = _
    rw [Timestamp.decode, Timestamp.parse?_of_write? htime]
  have hrepository : fields.required "repository" Json.asString = .ok entry.repository := rfl
  have hlookupType : fields.required "lookup_type" Json.asString = .ok entry.lookupType := rfl
  have hidentifiers : fields.required "identifiers" (Json.asList Json.asString) =
      .ok entry.identifiers := Json.decodeAll_map fun _ _ ↦ rfl
  have herrorType : fields.required "error_type" Json.asString = .ok entry.errorType := rfl
  have hmessage : fields.required "message" Json.asString = .ok entry.message := rfl
  have hhttpStatus : fields.optional "http_status" Json.asNat16 = .ok entry.httpStatus :=
    asOption_httpStatus hfits
  have hcategory : fields.required "category" FailureCategory.decode = .ok entry.category :=
    decode_name entry.category
  have hlifetime : fields.required "ttl_secs" Json.asNat64 = .ok entry.ttlSeconds :=
    asNatBelow_ofNat _ hfits.lifetime
  simp only [decode, hrecord, hcachedAt, hrepository, hlookupType, hidentifiers, herrorType,
    hmessage, hhttpStatus, hcategory, hlifetime, bind, Except.bind, pure, Except.pure]

/-! ### Texts of entries -/

/-- The members of an entry are read back from their texts. -/
theorem plain_members (hfits : entry.HasFittingNumbers) (time : String) :
    ∀ member ∈ entry.members time, Json.Plain (Json.nestingLimit - 1) member.2 := by
  have hnumber : ∀ n : Nat, n < Nat.pow 2 64 →
      Json.Plain (Json.nestingLimit - 1) (Json.ofNat n) :=
    fun n hn ↦ .integer _ n (by omega) (by omega)
  have hidentifiers : Json.Plain (Json.nestingLimit - 1) (Json.ofStrings entry.identifiers) := by
    refine @Json.Plain.array 125 _ fun element helement ↦ ?_
    obtain ⟨identifier, -, rfl⟩ := List.mem_map.mp helement
    exact .string _ identifier
  have hstatus : Json.Plain (Json.nestingLimit - 1)
      (Json.ofOption Json.ofNat entry.httpStatus) := by
    cases hstatusOf : entry.httpStatus with
    | none => exact .null _
    | some status =>
      exact hnumber status (Nat.lt_trans (hfits.status status hstatusOf) (by decide))
  simp only [members, List.forall_mem_cons, List.not_mem_nil, false_imp_iff, implies_true,
    and_true]
  exact ⟨.string _ _, .string _ _, .string _ _, hidentifiers, .string _ _, .string _ _, hstatus,
    .string _ _, hnumber _ hfits.lifetime⟩

/-- Stored entries. Assumes: an entry whose numbers fit into their types, and whose text is the
given one. Reading the text succeeds and brings an equal entry, which has expired exactly when the
stored one has, and which is classified, as a remembered failure, like the failure that was
recorded. -/
theorem ofJson?_of_toJson? (entry : FailureEntry) (hfits : entry.HasFittingNumbers) (text : String)
    (htext : entry.toJson? = some text) :
    ∃ restored, ofJson? text = some restored ∧ restored = entry ∧
      (∀ now, restored.isExpiredAt now = entry.isExpiredAt now) ∧
      ∀ (cache : FailureCache) (moment : Moment) (lookupType : String) (failure : FailureReport)
        (identifiers : List String), entry = cache.entryOf moment lookupType failure identifiers →
        classify (RemoteError.cachedFailure ⟨restored⟩).report = classify failure := by
  obtain ⟨value, hvalue, rfl⟩ := Option.map_eq_some_iff.mp htext
  obtain ⟨time, htime, rfl⟩ := encode?_eq_some_iff.mp hvalue
  have hknown : ∀ member ∈ entry.members time, member.1 ∈ memberNames := by
    intro member hmember
    rw [← map_fst_members time]
    exact List.mem_map_of_mem hmember
  have hread : ofJson? (Json.object (entry.members time)).compact = some entry := by
    simp only [ofJson?, Json.parseRecord?_compact hknown (plain_members hfits time),
      decode_members hfits htime]
  refine ⟨entry, hread, rfl, fun now ↦ rfl, ?_⟩
  intro cache moment lookupType failure identifiers hbuilt
  rw [hbuilt]
  rfl

/-- An entry of a leap day, told in an offset from universal time and with a fraction of a second,
with the longest lifetime. -/
def storedSample : FailureEntry where
  cachedAt := ⟨Timestamp.ofCivil ⟨2024, 2, 29⟩ 23 59 59 250000000, -12600⟩
  repository := "products"
  lookupType := "by_id"
  identifiers := ["42", "\u0001"]
  errorType := "RemoteServiceError"
  message := "no \"Grüße\"\n"
  httpStatus := some 404
  category := .notFound
  ttlSeconds := 18446744073709551615

theorem ofJson?_of_toJson?_sample :
    storedSample.HasFittingNumbers ∧ ∃ text, storedSample.toJson? = some text ∧
      ofJson? text = some storedSample := by
  have hfits : storedSample.HasFittingNumbers :=
    ⟨fun status hstatus ↦ by obtain rfl := Option.some.inj hstatus; decide, by decide⟩
  have hsome : storedSample.toJson?.isSome = true := by decide +kernel
  obtain ⟨text, htext⟩ := Option.isSome_iff_exists.mp hsome
  obtain ⟨restored, hread, rfl, -⟩ := ofJson?_of_toJson? storedSample hfits text htext
  exact ⟨hfits, text, htext, hread⟩

end FailureEntry

end ResourceLookup
