import ResourceLookup.Proofs.JsonText
import ResourceLookup.Proofs.SettingParts

/-!
# Values as they are stored

Raw values are stored with the members of every object in ascending order, each name once, and
nested no deeper than they were read (`Json.Settled`). What the reader reads is of that form once it
is canonical (`Json.settled_of_parseOctets`), and a value of that form is canonical
(`Json.Settled.canonical_eq`), so that storing it again changes nothing.

An object that is stored is read as a record of its members (`Json.record_canonical`). What a
decoder of records takes from a settled value is settled one level less deep
(`Json.Settled.find?`).
-/

set_option autoImplicit false
set_option relaxedAutoImplicit false

namespace ResourceLookup.Json

variable {depth : Nat} {value : Json} {name : String}

/-! ### Settled values -/

/-- A value with the members of every object in ascending order, nested at most so deep. -/
inductive Settled : Nat → Json → Prop
  | null (depth : Nat) : Settled depth .null
  | bool (depth : Nat) (value : Bool) : Settled depth (.bool value)
  | number (depth : Nat) (value : JsonNumber) : Settled depth (.number value)
  | string (depth : Nat) (value : String) : Settled depth (.string value)
  | array {depth : Nat} {elements : List Json}
      (helements : ∀ element ∈ elements, Settled depth element) :
      Settled (depth + 1) (.array elements)
  | object {depth : Nat} {members : List (String × Json)}
      (hascending : members.Pairwise fun first second ↦ first.1 < second.1)
      (hmembers : ∀ member ∈ members, Settled depth member.2) :
      Settled (depth + 1) (.object members)

/-- A value whose numbers are all integers of 64 bits. -/
def Integral (value : Json) : Prop :=
  ∃ depth, Plain depth value

theorem canonicalElements_eq_map (elements : List Json) :
    canonicalElements elements = elements.map canonical := by
  induction elements with
  | nil => rfl
  | cons element rest ih => rw [canonicalElements, ih, List.map_cons]

/-- A settled value is canonical. -/
theorem Settled.canonical_eq (hsettled : Settled depth value) : value.canonical = value := by
  induction hsettled with
  | array _ ih =>
    rw [canonical, canonicalElements_eq_map, List.map_congr_left ih, List.map_id']
  | @object _ members hascending _ ih =>
    have hsame : members.map (fun member ↦ (member.1, member.2.canonical)) = members := by
      refine (List.map_congr_left fun member hmember ↦ ?_).trans (List.map_id members)
      rw [ih member hmember, id_eq]
    rw [canonical, canonicalMembers_eq_map, hsame, sortMembers_eq_self hascending]
  | _ => rfl

/-- A settled value whose numbers are integers is plain at its own depth. -/
theorem Settled.plain (hsettled : Settled depth value) (hintegral : value.Integral) :
    Plain depth value := by
  obtain ⟨other, hplain⟩ := hintegral
  induction hsettled generalizing other with
  | null depth => exact .null depth
  | bool depth value => exact .bool depth value
  | number depth value =>
    cases hplain with
    | integer _ _ hlow hhigh => exact .integer depth _ hlow hhigh
  | string depth value => exact .string depth value
  | array _ ih =>
    cases hplain with
    | array helements => exact .array fun element hmem ↦ ih element hmem _ (helements element hmem)
  | object _ _ ih =>
    cases hplain with
    | object hmembers => exact .object fun member hmem ↦ ih member hmem _ (hmembers member hmem)

theorem settled_canonical_array {elements : List Json}
    (helements : ∀ element ∈ elements, Settled depth element.canonical) :
    Settled (depth + 1) (Json.array elements).canonical := by
  rw [canonical, canonicalElements_eq_map]
  refine .array fun element hmem ↦ ?_
  obtain ⟨written, hwritten, rfl⟩ := List.mem_map.mp hmem
  exact helements written hwritten

theorem mem_of_mem_sortMembers {members : List (String × Json)} {member : String × Json}
    (hmember : member ∈ sortMembers members) : member ∈ members := by
  have hfold : ∀ sorted : List (String × Json),
      member ∈ members.foldl (fun sorted other ↦ insert other.1 other.2 sorted) sorted →
        member ∈ members ∨ member ∈ sorted := by
    clear hmember
    induction members with
    | nil => exact fun sorted hmem ↦ .inr hmem
    | cons first rest ih =>
      intro sorted hmem
      rcases ih _ hmem with hrest | hinsert
      · exact .inl (List.mem_cons_of_mem first hrest)
      · rcases eq_or_mem_of_mem_insert hinsert with rfl | hsorted
        · exact .inl List.mem_cons_self
        · exact .inr hsorted
  exact (hfold [] hmember).resolve_right List.not_mem_nil

theorem settled_canonical_object {members : List (String × Json)}
    (hmembers : ∀ member ∈ members, Settled depth member.2.canonical) :
    Settled (depth + 1) (Json.object members).canonical := by
  rw [canonical, canonicalMembers_eq_map]
  refine .object (pairwise_sortMembers _) fun member hmem ↦ ?_
  obtain ⟨written, hwritten, rfl⟩ := List.mem_map.mp (mem_of_mem_sortMembers hmem)
  exact hmembers written hwritten

/-! ### What the reader reads -/

section Reading

variable {steps : Nat} {text rest : List Char}

theorem stopBefore_ne_ok {α : Type} {fault : Fault} {result : α} :
    stopBefore fault rest ≠ .ok result :=
  nofun

theorem eq_of_readLiteral {expected : List Char} {literal : Json}
    (hread : readLiteral literal expected text = .ok (value, rest)) : value = literal := by
  induction expected generalizing text with
  | nil =>
    rw [readLiteral] at hread
    exact (Prod.mk.inj (Except.ok.inj hread)).1.symm
  | cons c expected ih =>
    cases text with
    | nil => exact absurd hread stopBefore_ne_ok
    | cons d text =>
      rw [readLiteral] at hread
      split at hread
      · exact ih hread
      · exact absurd hread stopBefore_ne_ok

theorem exists_number_of_readNumber {negative : Bool}
    (hread : readNumber negative text = .ok (value, rest)) : ∃ number, value = .number number := by
  unfold readNumber at hread
  split at hread
  · cases hread
  · split at hread
    · cases hread
    · split at hread
      · cases hread
      · split at hread
        · exact ⟨_, (Prod.mk.inj (Except.ok.inj hread)).1.symm⟩
        · exact absurd hread stopBefore_ne_ok

/-- What is read within so many steps is settled once it is canonical. -/
structure ReadsSettled (steps : Nat) : Prop where
  value : ∀ {depth : Nat} {text rest : List Char} {value : Json},
    readValue steps depth text = .ok (value, rest) → Settled depth value.canonical
  elements : ∀ {depth : Nat} {first : Bool} {read elements : List Json} {text rest : List Char},
    (∀ element ∈ read, Settled depth element.canonical) →
      readElements steps depth first read text = .ok (elements, rest) →
        ∀ element ∈ elements, Settled depth element.canonical
  members : ∀ {depth : Nat} {first : Bool} {read members : List (String × Json)}
    {text rest : List Char}, (∀ member ∈ read, Settled depth member.2.canonical) →
      readMembers steps depth first read text = .ok (members, rest) →
        ∀ member ∈ members, Settled depth member.2.canonical

theorem ReadsSettled.readValue (hsteps : ReadsSettled steps)
    (hread : Json.readValue (steps + 1) depth text = .ok (value, rest)) :
    Settled depth value.canonical := by
  unfold Json.readValue at hread
  split at hread
  · exact absurd hread stopBefore_ne_ok
  · obtain rfl := eq_of_readLiteral hread
    exact .null depth
  · obtain rfl := eq_of_readLiteral hread
    exact .bool depth true
  · obtain rfl := eq_of_readLiteral hread
    exact .bool depth false
  · split at hread
    · cases hread
      exact .string depth _
    · cases hread
  · obtain ⟨number, rfl⟩ := exists_number_of_readNumber hread
    exact .number depth number
  · split at hread
    · exact absurd hread stopBefore_ne_ok
    · split at hread
      · next helements =>
        cases hread
        exact settled_canonical_array (hsteps.elements (List.forall_mem_nil _) helements)
      · cases hread
  · split at hread
    · obtain ⟨number, rfl⟩ := exists_number_of_readNumber hread
      exact .number depth number
    · split at hread
      · split at hread
        · exact absurd hread stopBefore_ne_ok
        · split at hread
          · next hmembers =>
            cases hread
            exact settled_canonical_object (hsteps.members (List.forall_mem_nil _) hmembers)
          · cases hread
      · exact absurd hread stopBefore_ne_ok

theorem ReadsSettled.readElements (hsteps : ReadsSettled steps) {first : Bool}
    {read elements : List Json} (hsettled : ∀ element ∈ read, Settled depth element.canonical)
    (hread : Json.readElements (steps + 1) depth first read text = .ok (elements, rest)) :
    ∀ element ∈ elements, Settled depth element.canonical := by
  unfold Json.readElements at hread
  split at hread
  · exact absurd hread stopBefore_ne_ok
  · cases hread
    exact fun element hmem ↦ hsettled element (List.mem_reverse.mp hmem)
  · dsimp only at hread
    split at hread
    · cases hread
    · split at hread
      · next hvalue =>
        exact hsteps.elements (List.forall_mem_cons.mpr ⟨hsteps.value hvalue, hsettled⟩) hread
      · cases hread

theorem ReadsSettled.readMembers (hsteps : ReadsSettled steps) {first : Bool}
    {read members : List (String × Json)}
    (hsettled : ∀ member ∈ read, Settled depth member.2.canonical)
    (hread : Json.readMembers (steps + 1) depth first read text = .ok (members, rest)) :
    ∀ member ∈ members, Settled depth member.2.canonical := by
  unfold Json.readMembers at hread
  split at hread
  · exact absurd hread stopBefore_ne_ok
  · split at hread
    · cases hread
      exact fun member hmem ↦ hsettled member (List.mem_reverse.mp hmem)
    · dsimp only at hread
      split at hread
      · cases hread
      · exact absurd hread stopBefore_ne_ok
      · split at hread
        · split at hread <;> exact absurd hread stopBefore_ne_ok
        · split at hread
          · cases hread
          · split at hread
            · cases hread
            · split at hread
              · next hvalue =>
                exact hsteps.members
                  (List.forall_mem_cons.mpr ⟨hsteps.value hvalue, hsettled⟩) hread
              · cases hread

theorem readsSettled (steps : Nat) : ReadsSettled steps := by
  induction steps with
  | zero =>
    constructor
    · intro depth text rest value hread
      exact absurd hread stopBefore_ne_ok
    · intro depth first read elements text rest _ hread
      exact absurd hread stopBefore_ne_ok
    · intro depth first read members text rest _ hread
      exact absurd hread stopBefore_ne_ok
  | succ steps ih => exact ⟨ih.readValue, ih.readElements, ih.readMembers⟩

/-- What a text holds is settled once it is canonical. -/
theorem settled_of_parseChars (hparse : parseChars text = .ok value) :
    Settled nestingLimit value.canonical := by
  unfold parseChars at hparse
  split at hparse
  · cases hparse
  · next hread =>
    split at hparse
    · cases hparse
      exact (readsSettled _).value hread
    · cases hparse

theorem settled_of_parseOctets {bytes : List UInt8} (hparse : parseOctets bytes = .ok value) :
    Settled nestingLimit value.canonical := by
  unfold parseOctets at hparse
  split at hparse
  · exact settled_of_parseChars hparse
  · dsimp only at hparse
    split at hparse <;> cases hparse

end Reading

/-! ### Records -/

section Records

variable {members : List (String × Json)} {fields : Fields} {type : String} {known : List String}

/-- An object that is stored is read as a record of its members. -/
theorem record_canonical (known : List String) (surplus : Surplus) :
    record type known false surplus (Json.object members).canonical =
      .ok (fieldsOf (sortMembers (canonicalMembers members))) := by
  rw [canonical, record, checkMembers_of_ascending known (pairwise_sortMembers _)]
  rfl

theorem eq_object_of_asMembers (hmembers : asMembers value = .ok members) :
    value = .object members := by
  cases value with
  | object written => rw [Except.ok.inj hmembers]
  | _ => cases hmembers

theorem mem_of_lookup_zip {elements : List Json} {found : Json}
    (hfound : lookup name (known.zip elements) = some found) : found ∈ elements := by
  obtain ⟨before, behind, hmembers, -⟩ := lookup_eq_some_iff.mp hfound
  have hmem : (name, found) ∈ known.zip elements :=
    hmembers ▸ List.mem_append_right before List.mem_cons_self
  exact (List.of_mem_zip hmem).2

/-- What a decoder of records takes from a settled value is settled one level less deep. -/
theorem Settled.find? (hsettled : Settled (depth + 1) value) {surplus : Surplus}
    (hrecord : record type known false surplus value = .ok fields) {found : Json}
    (hfound : fields.find? name = some found) : Settled depth found := by
  cases hsettled with
  | array helements =>
    unfold record at hrecord
    dsimp only at hrecord
    split at hrecord
    · cases hrecord
    · obtain rfl := Except.ok.inj hrecord
      exact helements found (mem_of_lookup_zip hfound)
  | object _ hmembers =>
    obtain rfl := eq_fieldsOf_of_record hrecord
    obtain ⟨before, behind, hwritten, -⟩ := lookup_eq_some_iff.mp hfound
    exact hmembers (name, found) (hwritten ▸ List.mem_append_right before List.mem_cons_self)
  | _ => cases hrecord

end Records

/-! ### Optional members and lists -/

section Members

variable {α : Type} {fields : Fields} {decode : Json → Decoded α} {encode : α → Json}

/-- An optional member reads back if its value does and is not `null`. -/
theorem Fields.optional_map {datum? : Option α} (hfound : fields.find? name = datum?.map encode)
    (hread : ∀ datum ∈ datum?, encode datum ≠ .null ∧ decode (encode datum) = .ok datum) :
    fields.optional name decode = .ok datum? := by
  cases datum? with
  | none => rw [optional, withDefault_of_absent hfound]
  | some datum =>
    obtain ⟨hvalue, hdecode⟩ := hread datum rfl
    have hoption : asOption decode (encode datum) = (decode (encode datum)).map some := by
      unfold asOption
      split
      · next hnull => exact absurd hnull hvalue
      · rfl
    rw [optional, withDefault_of_find? hfound, hoption, hdecode]
    rfl

/-- What is read of an optional member is decoded from a value other than `null`. -/
theorem Fields.exists_of_optional {datum? : Option α} {datum : α}
    (hread : fields.optional name decode = .ok datum?) (hdatum : datum ∈ datum?) :
    ∃ value, fields.find? name = some value ∧ value ≠ .null ∧ decode value = .ok datum := by
  rw [Option.mem_def] at hdatum
  subst hdatum
  cases hfound : fields.find? name with
  | none =>
    rw [optional, withDefault_of_absent hfound] at hread
    cases hread
  | some value =>
    rw [optional, withDefault_of_find? hfound] at hread
    unfold asOption at hread
    split at hread
    · cases hread
    · next hvalue =>
      refine ⟨value, rfl, hvalue, ?_⟩
      cases hdecode : decode value with
      | error mismatch =>
        rw [hdecode] at hread
        cases hread
      | ok other =>
        rw [hdecode] at hread
        rw [Option.some.inj (Except.ok.inj hread)]

/-- Values that are decoded one by one. -/
theorem decodeAll_eq_ok_iff {values : List Json} {data : List α} :
    decodeAll decode values = .ok data ↔
      List.Forall₂ (fun value datum ↦ decode value = .ok datum) values data := by
  induction values generalizing data with
  | nil =>
    rw [decodeAll, List.forall₂_nil_left_iff, Except.ok.injEq]
    exact eq_comm
  | cons value rest ih =>
    rw [decodeAll, List.forall₂_cons_left_iff]
    cases hdecode : decode value with
    | error mismatch =>
      constructor
      · intro hread
        cases hread
      · rintro ⟨datum, behind, hdatum, -⟩
        cases hdatum
    | ok first =>
      dsimp only
      cases hrest : decodeAll decode rest with
      | error mismatch =>
        constructor
        · intro hread
          cases hread
        · rintro ⟨datum, behind, -, hbehind, -⟩
          rw [← ih, hrest] at hbehind
          cases hbehind
      | ok others =>
        rw [Except.ok.injEq]
        constructor
        · rintro rfl
          exact ⟨first, others, rfl, ih.mp hrest, rfl⟩
        · rintro ⟨datum, behind, hdatum, hbehind, rfl⟩
          rw [← ih, hrest] at hbehind
          rw [Except.ok.inj hdatum, Except.ok.inj hbehind]

end Members

end ResourceLookup.Json
