import ResourceLookup.Failure.Policy
import ResourceLookup.Proofs.DurationText

/-!
# Settings of the failure cache read back

The overrides of the default time are a map from categories to durations, kept as a list in the
order of the categories (`CategoryTtls.Ordered`). Every map is one (`CategoryTtls.find?_ofMap`), and
a list in that order is what its members are read as (`FailurePolicy.decodeTtls_encoded`).

The text of settings reads back as the settings (`FailurePolicy.parse_encode`): all durations in it
do, its flag and its names do, and it is a JSON text without numbers.
-/

set_option autoImplicit false
set_option relaxedAutoImplicit false

namespace ResourceLookup

/-! ### Overrides -/

namespace CategoryTtls

variable {category : FailureCategory} {ttls : CategoryTtls}

/-- At most one override for each category, in the order of the categories. -/
def Ordered (ttls : CategoryTtls) : Prop :=
  ttls.Pairwise fun first second ↦ first.1.rank < second.1.rank

instance (ttls : CategoryTtls) : Decidable ttls.Ordered :=
  inferInstanceAs (Decidable (ttls.Pairwise fun first second ↦ first.1.rank < second.1.rank))

/-- The overrides that a map from categories to durations gives. -/
def ofMap (ttl? : FailureCategory → Option Duration) : CategoryTtls :=
  FailureCategory.all.filterMap fun category ↦ (ttl? category).map fun ttl ↦ (category, ttl)

theorem ordered_ofMap (ttl? : FailureCategory → Option Duration) : (ofMap ttl?).Ordered := by
  have hall : FailureCategory.all.Pairwise fun first second ↦ first.rank < second.rank := by decide
  refine List.Pairwise.filterMap _ (fun first second hless entry hentry other hother ↦ ?_) hall
  obtain ⟨ttl, -, rfl⟩ := Option.map_eq_some_iff.mp hentry
  obtain ⟨other, -, rfl⟩ := Option.map_eq_some_iff.mp hother
  exact hless

/-- What a map gives for a category is found. -/
theorem find?_ofMap (ttl? : FailureCategory → Option Duration) (category : FailureCategory) :
    (ofMap ttl?).find? category = ttl? category := by
  have hlisted : ∀ categories : List FailureCategory,
      find? category (categories.filterMap fun other ↦ (ttl? other).map fun ttl ↦ (other, ttl)) =
        if category ∈ categories then ttl? category else none := by
    intro categories
    induction categories with
    | nil => rfl
    | cons first rest ih =>
      rw [List.filterMap_cons]
      by_cases hfirst : first = category
      · subst hfirst
        rw [if_pos List.mem_cons_self]
        cases hgiven : ttl? first with
        | none =>
          simp only [Option.map_none, ih, hgiven, ite_self]
        | some ttl => exact if_pos rfl
      · have hskip : ∀ ttl, find? category ((first, ttl) :: rest.filterMap fun other ↦
            (ttl? other).map fun ttl ↦ (other, ttl)) = _ := fun ttl ↦ (if_neg hfirst).trans ih
        simp only [List.mem_cons, or_iff_right (Ne.symm hfirst)]
        cases ttl? first with
        | none => exact ih
        | some ttl => exact hskip ttl
  rw [ofMap, hlisted, if_pos (FailureCategory.mem_all category)]

/-- An override behind all others is put in at the end. -/
theorem insert_eq_append {ttl : Duration}
    (hbehind : ∀ entry ∈ ttls, entry.1.rank < category.rank) :
    insert category ttl ttls = ttls ++ [(category, ttl)] := by
  induction ttls with
  | nil => rfl
  | cons entry rest ih =>
    rw [List.forall_mem_cons] at hbehind
    have hother : category ≠ entry.1 := by
      rintro rfl
      exact Nat.lt_irrefl _ hbehind.1
    rw [insert, if_neg (Nat.lt_asymm hbehind.1), if_neg hother, ih hbehind.2, List.cons_append]

end CategoryTtls

namespace FailurePolicy

variable {policy : FailurePolicy}

/-! ### Values -/

/-- The members for overrides. -/
def ttlMembers (ttls : CategoryTtls) : List (String × Json) :=
  ttls.map fun (category, ttl) ↦ (category.name, HumanDuration.encode ttl)

/-- Overrides are read as they were written. -/
theorem decodeTtls_encoded {read ttls : CategoryTtls} (hordered : (read ++ ttls).Ordered) :
    decodeTtls read (ttlMembers ttls) = .ok (read ++ ttls) := by
  induction ttls generalizing read with
  | nil => rw [List.append_nil]; rfl
  | cons entry rest ih =>
    obtain ⟨category, ttl⟩ := entry
    have hbehind : ∀ entry ∈ read, entry.1.rank < category.rank := fun entry hentry ↦
      (List.pairwise_append.mp hordered).2.2 entry hentry _ List.mem_cons_self
    have hname : FailureCategory.decodeName category.name = .ok category := by
      rw [FailureCategory.decodeName, FailureCategory.named?_name]
    rw [List.append_cons] at hordered ⊢
    rw [ttlMembers, List.map_cons, decodeTtls, hname]
    simp only [HumanDuration.decode_encode]
    rw [CategoryTtls.insert_eq_append hbehind]
    exact ih hordered

/-- Settings in a value are read as they were written. -/
theorem decode_encode (hordered : policy.categoryTtls.Ordered) (surplus : Json.Surplus) :
    decode surplus policy.encode = .ok policy := by
  let fields : Json.Fields := ⟨fun name ↦ Json.lookup name
    [("enabled", .bool policy.enabled),
     ("default_ttl", HumanDuration.encode policy.defaultTtl),
     ("category_ttls", .object (ttlMembers policy.categoryTtls))]⟩
  have hrecord : Json.record "failure cache settings" memberNames true surplus policy.encode =
      .ok fields := rfl
  have henabled : fields.withDefault "enabled" standard.enabled Json.asBool =
      .ok policy.enabled := rfl
  have hdefault : fields.withDefault "default_ttl" standard.defaultTtl HumanDuration.decode =
      .ok policy.defaultTtl := by
    have hfound : fields.find? "default_ttl" = some (HumanDuration.encode policy.defaultTtl) := rfl
    rw [Json.Fields.withDefault_of_find? hfound, HumanDuration.decode_encode]
  have httls : (fields.withDefault "category_ttls" standard.categoryTtls fun ttls ↦ do
      let members ← Json.asMembers ttls
      decodeTtls [] members) = .ok policy.categoryTtls := by
    have hfound : fields.find? "category_ttls" =
      some (.object (ttlMembers policy.categoryTtls)) := rfl
    rw [Json.Fields.withDefault_of_find? hfound]
    exact @decodeTtls_encoded [] policy.categoryTtls hordered
  rw [decode, hrecord]
  simp only [bind, Except.bind, pure, Except.pure] at httls ⊢
  rw [henabled, hdefault]
  simp only [httls]

/-! ### Texts -/

theorem plain_encode (policy : FailurePolicy) : Json.Plain Json.nestingLimit policy.encode := by
  have httls : Json.Plain 126 (.object (ttlMembers policy.categoryTtls)) := by
    refine @Json.Plain.object 125 _ fun member hmember ↦ ?_
    obtain ⟨⟨category, ttl⟩, -, rfl⟩ := List.mem_map.mp hmember
    exact .string _ _
  rw [encode]
  refine @Json.Plain.object 126 _ fun member hmember ↦ ?_
  simp only [List.mem_cons, List.not_mem_nil, or_false] at hmember
  rcases hmember with rfl | rfl | rfl
  · exact .bool _ _
  · exact .string _ _
  · exact httls

/-- Settings of the failure cache read back. The text of settings whose overrides are a map, kept in
the order of the categories as every map can be, is read as a value that decodes to the same
settings. The text of a duration, whichever it is, is read as a value that decodes to the duration,
and so is that of a duration that may be absent. -/
theorem parse_encode :
    (∀ policy : FailurePolicy, policy.categoryTtls.Ordered → ∀ surplus : Json.Surplus,
      ∃ value, Json.parse policy.encode.compact = .ok value ∧
        decode surplus value = .ok policy) ∧
      (∀ ttl? : FailureCategory → Option Duration, (CategoryTtls.ofMap ttl?).Ordered ∧
        ∀ category, (CategoryTtls.ofMap ttl?).find? category = ttl? category) ∧
      (∀ duration : Duration, ∃ value,
        Json.parse (HumanDuration.encode duration).compact = .ok value ∧
          HumanDuration.decode value = .ok duration) ∧
      ∀ duration? : Option Duration, ∃ value,
        Json.parse (Json.ofOption HumanDuration.encode duration?).compact = .ok value ∧
          Json.asOption HumanDuration.decode value = .ok duration? := by
  refine ⟨fun policy hordered surplus ↦ ?_, fun ttl? ↦ ?_, fun duration ↦ ?_, fun duration? ↦ ?_⟩
  · exact ⟨_, Json.parse_compact policy.plain_encode, decode_encode hordered surplus⟩
  · exact ⟨CategoryTtls.ordered_ofMap ttl?, CategoryTtls.find?_ofMap ttl?⟩
  · exact ⟨_, Json.parse_compact (.string _ _), HumanDuration.decode_encode duration⟩
  · refine ⟨_, Json.parse_compact ?_, HumanDuration.asOption_decode_ofOption_encode duration?⟩
    cases duration? with
    | none => exact .null _
    | some duration => exact .string _ _

/-- Settings with the shortest and the longest durations. -/
def extreme : FailurePolicy :=
  ⟨false, .max, [(.notFound, .zero), (.timeout, .max), (.unknown, ⟨1, by decide⟩)]⟩

theorem parse_encode_extreme :
    extreme.categoryTtls.Ordered ∧ ∃ value, Json.parse extreme.encode.compact = .ok value ∧
      decode .refused value = .ok extreme := by
  have hordered : extreme.categoryTtls.Ordered := by decide
  exact ⟨hordered, parse_encode.1 extreme hordered .refused⟩

end FailurePolicy

end ResourceLookup
