import Mathlib.Data.List.Sort
import ResourceLookup.Settings.Tree

/-!
# Sections laid over each other

What stands under a path of names in a configuration, what becomes of it when something else is put
in, taken out or replaced (`Tree.edited`), and when another section is laid over (`Tree.overlaid`).

A value is seen through what stands below it: `Tree.below?` of an edited value and of two values
laid over each other are given name by name (`below?_edited`, `placeAt_overlaid_cons`), so that
everything about longer paths is an induction over the names. An edit puts in or takes out what
stands under its path (`placeAt_edited`, `placeAt_edited_none`), changes nothing on paths that part
from its own (`bind_follow?_edited`), and nothing at all under a value that is no section and is
laid over the place that was edited (`overlaid_edited`).

The members of sections ascend by name at every depth, as they do in canonical values
(`ascending_canonical`); two sections with the same members under every name are then equal.
-/

set_option autoImplicit false
set_option relaxedAutoImplicit false

namespace ResourceLookup.Json

variable {name : String} {value : Json} {members : List (String × Json)}

/-- Among ascending members the one that is found under a name is the only one there. -/
theorem lookup_eq_some_iff_mem (hmembers : members.Pairwise fun first second ↦ first.1 < second.1) :
    lookup name members = some value ↔ (name, value) ∈ members := by
  rw [lookup_eq_some_iff]
  constructor
  · rintro ⟨before, behind, rfl, -⟩
    exact List.mem_append_right before List.mem_cons_self
  · intro hmember
    obtain ⟨before, behind, rfl⟩ := List.append_of_mem hmember
    refine ⟨before, behind, rfl, fun hbefore ↦ ?_⟩
    obtain ⟨member, hmem, hname⟩ := List.mem_map.mp hbefore
    have hless : member.1 < name :=
      (List.pairwise_append.mp hmembers).2.2 member hmem (name, value) List.mem_cons_self
    exact String.lt_irrefl name (hname ▸ hless)

theorem lookup_eq_none_of_forall_ne (habsent : ∀ member ∈ members, member.1 ≠ name) :
    lookup name members = none := by
  rw [Option.eq_none_iff_forall_not_mem]
  intro value hvalue
  obtain ⟨before, behind, rfl, -⟩ := lookup_eq_some_iff.mp hvalue
  exact habsent (name, value) (List.mem_append_right before List.mem_cons_self) rfl

/-- No second member has the name of the first. -/
theorem lookup_behind {key : String} {rest : List (String × Json)}
    (hmembers : ((key, value) :: rest).Pairwise fun first second ↦ first.1 < second.1) :
    lookup key rest = none :=
  lookup_eq_none_of_forall_ne fun member hmember hkey ↦
    String.lt_irrefl key (hkey ▸ (List.pairwise_cons.mp hmembers).1 member hmember)

/-- Ascending members have distinct names. -/
theorem nodup_names (hmembers : members.Pairwise fun first second ↦ first.1 < second.1) :
    (members.map Prod.fst).Nodup :=
  List.pairwise_map.mpr (hmembers.imp fun hless ↦ String.ne_of_lt hless)

/-- Ascending members are determined by what is found under each name. -/
theorem eq_of_lookup_eq {first second : List (String × Json)}
    (hfirst : first.Pairwise fun former latter ↦ former.1 < latter.1)
    (hsecond : second.Pairwise fun former latter ↦ former.1 < latter.1)
    (hlookup : ∀ name, lookup name first = lookup name second) : first = second := by
  have hperm : first.Perm second := by
    rw [List.perm_ext_iff_of_nodup (.of_map Prod.fst (nodup_names hfirst))
      (.of_map Prod.fst (nodup_names hsecond))]
    intro member
    rw [← lookup_eq_some_iff_mem hfirst, ← lookup_eq_some_iff_mem hsecond, hlookup]
  exact hperm.eq_of_pairwise (fun former latter _ _ hless hgreater ↦
    absurd hgreater (String.lt_asymm hless)) hfirst hsecond

/-- With distinct names it does not matter from which end members are looked for. -/
theorem lookup_reverse (hnames : (members.map Prod.fst).Nodup) :
    lookup name members.reverse = lookup name members := by
  induction members with
  | nil => rfl
  | cons member rest ih =>
    obtain ⟨key, value⟩ := member
    rw [List.map_cons, List.nodup_cons] at hnames
    rw [List.reverse_cons, lookup_append, ih hnames.2]
    show (lookup name rest).or (if key = name then some value else none) =
      if key = name then some value else lookup name rest
    by_cases hname : key = name
    · have hbehind : lookup name rest = none := lookup_eq_none_of_forall_ne fun other hother hsame ↦
        hnames.1 (List.mem_map.mpr ⟨other, hother, hsame.trans hname.symm⟩)
      rw [if_pos hname, if_pos hname, hbehind, Option.none_or]
    · rw [if_neg hname, if_neg hname, Option.or_none]

theorem sortMembers_eq_self (hmembers : members.Pairwise fun first second ↦ first.1 < second.1) :
    sortMembers members = members :=
  eq_of_lookup_eq (pairwise_sortMembers members) hmembers fun _ ↦
    lookup_sortMembers.trans (lookup_reverse (nodup_names hmembers))

theorem lookup_map (change : Json → Json) :
    lookup name (members.map fun member ↦ (member.1, change member.2)) =
      (lookup name members).map change := by
  induction members with
  | nil => rfl
  | cons member rest ih =>
    rw [List.map_cons, lookup, lookup, ih]
    split <;> rfl

theorem lookup_filter_ne (other : String) :
    lookup name (members.filter fun member ↦ member.1 ≠ other) =
      if other = name then none else lookup name members := by
  induction members with
  | nil =>
    show none = _
    split <;> rfl
  | cons member rest ih =>
    by_cases hkept : member.1 = other
    · rw [List.filter_cons_of_neg (by simpa using hkept), ih, lookup]
      by_cases hother : other = name
      · rw [if_pos hother, if_pos hother]
      · rw [if_neg hother, if_neg hother, if_neg (hkept ▸ hother)]
    · rw [List.filter_cons_of_pos (by simpa using hkept), lookup, lookup, ih]
      by_cases hname : member.1 = name
      · rw [if_pos hname, if_pos hname, if_neg (fun hother ↦ hkept (hname.trans hother.symm))]
      · rw [if_neg hname, if_neg hname]

theorem canonicalMembers_eq_map (members : List (String × Json)) :
    canonicalMembers members = members.map fun member ↦ (member.1, member.2.canonical) := by
  induction members with
  | nil => rfl
  | cons member rest ih => rw [canonicalMembers, ih, List.map_cons]

/-- What is found under a name of a stored object is the last member of that name. -/
theorem lookup_canonical (members : List (String × Json)) :
    lookup name (sortMembers (canonicalMembers members)) =
      (lookup name members.reverse).map canonical := by
  rw [lookup_sortMembers, canonicalMembers_eq_map, ← List.map_reverse, lookup_map]

end ResourceLookup.Json

namespace ResourceLookup.Tree

open Json

/-! ### Places -/

/-- What is met under a path of names: a value, a section without a member of the next name, or
something that is no section and stands in the way. -/
inductive Place where
  | found (value : Json)
  | absent
  | blocked

/-- The members of a section; what is no section has none. -/
def membersOf : Option Json → List (String × Json)
  | some (.object members) => members
  | _ => []

/-- What stands below a value under a name. -/
def below? (name : String) (value? : Option Json) : Option Json :=
  lookup name (membersOf value?)

/-- What is met below a value under a path of names. -/
def placeAt : List String → Option Json → Place
  | _, none => .absent
  | [], some value => .found value
  | name :: rest, some (.object members) => placeAt rest (lookup name members)
  | _ :: _, some _ => .blocked

/-- The value is no section. -/
def IsLeaf (value : Json) : Prop :=
  ∀ members, value ≠ .object members

/-- The members of every section in the value ascend by name. -/
def Ascending (value? : Option Json) : Prop :=
  ∀ names members, placeAt names value? = .found (.object members) →
    members.Pairwise fun first second ↦ first.1 < second.1

section Places

variable {name : String} {names rest : List String} {value : Json} {value? : Option Json}

theorem membersOf_of_isLeaf (hvalue : IsLeaf value) : membersOf (some value) = [] := by
  unfold membersOf
  split
  · next members hobject => exact absurd (Option.some.inj hobject) (hvalue members)
  · rfl

theorem isLeaf_or_object (value : Json) : IsLeaf value ∨ ∃ members, value = .object members := by
  by_cases hleaf : IsLeaf value
  · exact .inl hleaf
  · unfold IsLeaf at hleaf
    push Not at hleaf
    exact .inr hleaf

/-- Nothing, a value that is no section, or a section. -/
theorem shape (value? : Option Json) :
    value? = none ∨ (∃ value, value? = some value ∧ IsLeaf value) ∨
      ∃ members, value? = some (.object members) := by
  rcases value? with _ | value
  · exact .inl rfl
  · rcases isLeaf_or_object value with hleaf | ⟨members, rfl⟩
    · exact .inr (.inl ⟨value, rfl, hleaf⟩)
    · exact .inr (.inr ⟨members, rfl⟩)

theorem placeAt_none (names : List String) : placeAt names none = .absent := by
  cases names <;> rfl

theorem placeAt_of_isLeaf (hvalue : IsLeaf value) :
    placeAt (name :: rest) (some value) = .blocked := by
  cases value with
  | object members => exact absurd rfl (hvalue members)
  | _ => rfl

theorem placeAt_object (members : List (String × Json)) :
    placeAt (name :: rest) (some (.object members)) = placeAt rest (lookup name members) :=
  rfl

theorem placeAt_cons (hopen : placeAt (name :: rest) value? ≠ .blocked) :
    placeAt (name :: rest) value? = placeAt rest (below? name value?) := by
  rcases shape value? with rfl | ⟨value, rfl, hleaf⟩ | ⟨members, rfl⟩
  · exact (placeAt_none rest).symm
  · exact absurd (placeAt_of_isLeaf hleaf) hopen
  · rfl

theorem exists_object_of_placeAt (hopen : placeAt (name :: rest) (some value) ≠ .blocked) :
    ∃ members, value = .object members :=
  (isLeaf_or_object value).resolve_left fun hleaf ↦ hopen (placeAt_of_isLeaf hleaf)

theorem exists_section_of_found (hplace : placeAt (name :: rest) value? = .found value) :
    ∃ members, value? = some (.object members) := by
  rcases shape value? with rfl | ⟨other, rfl, hleaf⟩ | hsection
  · exact absurd hplace (by simp [placeAt])
  · exact absurd (hplace.symm.trans (placeAt_of_isLeaf hleaf)) (by simp)
  · exact hsection

theorem eq_some_of_found (hplace : placeAt [] value? = .found value) : value? = some value := by
  rcases value? with _ | other
  · exact absurd hplace (by simp [placeAt])
  · exact congrArg some (Place.found.inj hplace)

theorem placeAt_cons_of_found (hplace : placeAt rest (below? name value?) = .found value) :
    placeAt (name :: rest) value? = .found value := by
  rcases shape value? with rfl | ⟨other, rfl, hleaf⟩ | ⟨members, rfl⟩
  · exact absurd (hplace.symm.trans (placeAt_none rest)) (by simp)
  · rw [below?, membersOf_of_isLeaf hleaf] at hplace
    exact absurd (hplace.symm.trans (placeAt_none rest)) (by simp)
  · exact hplace

theorem Ascending.below? (hvalue : Ascending value?) (name : String) :
    Ascending (below? name value?) :=
  fun names members hplace ↦ hvalue (name :: names) members (placeAt_cons_of_found hplace)

theorem Ascending.members (hvalue : Ascending value?) :
    (membersOf value?).Pairwise fun first second ↦ first.1 < second.1 := by
  unfold membersOf
  split
  · next members => exact hvalue [] members rfl
  · exact .nil

theorem ascending_empty : Ascending (some (.object [])) := by
  intro names members hplace
  rcases names with _ | ⟨name, rest⟩
  · obtain rfl := Json.object.inj (Place.found.inj hplace)
    exact .nil
  · exact absurd ((placeAt_none rest).symm.trans hplace) (by simp)

/-- What is no section counts as one without members. -/
theorem Ascending.section (hvalue : Ascending value?) :
    Ascending (some (.object (membersOf value?))) := by
  rcases shape value? with rfl | ⟨value, rfl, hleaf⟩ | ⟨members, rfl⟩
  · exact ascending_empty
  · rw [membersOf_of_isLeaf hleaf]
    exact ascending_empty
  · exact hvalue

/-- The members of a canonical value ascend at every depth. -/
theorem ascending_canonical (value : Json) : Ascending (some value.canonical) := by
  intro names
  induction names generalizing value with
  | nil =>
    intro members hplace
    cases value with
    | object written =>
      obtain rfl := Json.object.inj (Place.found.inj hplace)
      exact pairwise_sortMembers _
    | _ => exact absurd (Place.found.inj hplace) (by simp [canonical])
  | cons name rest ih =>
    intro members hplace
    cases value with
    | object written =>
      rw [canonical, placeAt_object, lookup_canonical] at hplace
      rcases hwritten : lookup name written.reverse with _ | below
      · rw [hwritten, Option.map_none, placeAt_none] at hplace
        exact absurd hplace (by simp)
      · rw [hwritten, Option.map_some] at hplace
        exact ih below members hplace
    | _ => exact absurd hplace (by simp [canonical, placeAt])

end Places

/-! ### Edits -/

/-- A value with what stands below it under a name put in place of what was there, or with nothing
there. -/
def withMember (name : String) : Option Json → Option Json → Option Json
  | some below, value? => some (.object (Json.insert name below (membersOf value?)))
  | none, some (.object members) =>
    some (.object (members.filter fun member ↦ member.1 ≠ name))
  | none, value? => value?

/-- A value once `edit?` stands under a path of names, or nothing does. What is no section on the
way gives way to one where something is put in. -/
def edited (edit? : Option Json) : List String → Option Json → Option Json
  | [], _ => edit?
  | name :: rest, value? => withMember name (edited edit? rest (below? name value?)) value?

/-- A configuration once `edit?` stands under a path of names, or nothing does. -/
def changed (edit? : Option Json) (names : List String) (config : Json) : Json :=
  (edited edit? names (some config)).getD .null

/-- Two paths of names that go different ways from some name on. -/
inductive Parted : List String → List String → Prop where
  | here {name other : String} (hother : other ≠ "") (hdifferent : name ≠ other)
    (rest behind : List String) : Parted (name :: rest) (other :: behind)
  | there {name : String} {names others : List String} (hname : name ≠ "")
    (hparted : Parted names others) : Parted (name :: names) (name :: others)

section Edits

variable {name other : String} {rest : List String} {edit? value? : Option Json}

theorem below?_withMember (below : Option Json) :
    below? other (withMember name below value?) =
      if name = other then below else below? other value? := by
  rcases below with _ | below
  · rcases shape value? with rfl | ⟨value, rfl, hleaf⟩ | ⟨members, rfl⟩
    · show none = _
      split <;> rfl
    · have hsame : withMember name none (some value) = some value := by
        cases value with
        | object members => exact absurd rfl (hleaf members)
        | _ => rfl
      rw [hsame, below?, membersOf_of_isLeaf hleaf]
      show none = _
      split <;> rfl
    · exact lookup_filter_ne name
  · exact lookup_insert

/-- An edit changes what stands under the first name of its path, and nothing under others. -/
theorem below?_edited :
    below? other (edited edit? (name :: rest) value?) =
      if name = other then edited edit? rest (below? name value?) else below? other value? :=
  below?_withMember _

/-- What is put in stands there. -/
theorem placeAt_edited (value : Json) (names : List String) (value? : Option Json) :
    placeAt names (edited (some value) names value?) = .found value := by
  induction names generalizing value? with
  | nil => rfl
  | cons name rest ih =>
    refine placeAt_cons_of_found ?_
    rw [below?_edited, if_pos rfl]
    exact ih _

/-- Nothing stands where something is taken out. -/
theorem placeAt_edited_none (value : Json) (names : List String) (value? : Option Json) :
    placeAt names (edited none names value?) ≠ .found value := by
  induction names generalizing value? with
  | nil => exact fun hplace ↦ absurd hplace (by simp [edited, placeAt])
  | cons name rest ih =>
    intro hplace
    have hbelow := placeAt_cons (by rw [hplace]; simp)
    rw [hplace, below?_edited, if_pos rfl] at hbelow
    exact ih _ hbelow.symm

theorem Ascending.edited (hvalue : Ascending value?) (name : String) (rest : List String) :
    (membersOf (edited edit? (name :: rest) value?)).Pairwise
      fun first second ↦ first.1 < second.1 := by
  have hmembers := hvalue.members
  unfold Tree.edited withMember
  split
  · exact pairwise_insert hmembers
  · exact hmembers.filter _
  · exact hmembers

theorem some_changed (edit? : Option Json) (name : String) (rest : List String) (config : Json) :
    some (changed edit? (name :: rest) config) = edited edit? (name :: rest) (some config) := by
  unfold changed edited withMember
  split <;> rfl

theorem bind_follow?_cons (hname : name ≠ "") :
    value?.bind (follow? (name :: rest)) = (below? name value?).bind (follow? rest) := by
  rcases shape value? with rfl | ⟨value, rfl, hleaf⟩ | ⟨members, rfl⟩
  · rfl
  · rw [below?, membersOf_of_isLeaf hleaf, Option.bind_some]
    cases value with
    | object members => exact absurd rfl (hleaf members)
    | _ => exact if_neg hname
  · rw [Option.bind_some, follow?, if_neg hname]
    show _ = (lookup name members).bind (follow? rest)
    rcases lookup name members with _ | below <;> rfl

theorem Ascending.bind_follow? (hvalue : Ascending value?) (names : List String) :
    Ascending (value?.bind (follow? names)) := by
  induction names generalizing value? with
  | nil => rcases value? with _ | value <;> exact hvalue
  | cons name rest ih =>
    by_cases hname : name = ""
    · have hends : value?.bind (follow? (name :: rest)) = value? := by
        subst hname
        rcases value? with _ | value
        · rfl
        · cases value <;> rfl
      rw [hends]
      exact hvalue
    · rw [bind_follow?_cons hname]
      exact ih (hvalue.below? name)

/-- An edit changes nothing on a path that parts from its own. -/
theorem bind_follow?_edited {names others : List String} (hparted : Parted names others) :
    (edited edit? names value?).bind (follow? others) = value?.bind (follow? others) := by
  induction hparted generalizing value? with
  | here hother hdifferent rest behind =>
    rw [bind_follow?_cons hother, bind_follow?_cons hother, below?_edited, if_neg hdifferent]
  | there hname hparted ih =>
    rw [bind_follow?_cons hname, bind_follow?_cons hname, below?_edited, if_pos rfl]
    exact ih

end Edits

/-! ### Overlays -/

/-- What two values that stand under one name make when their sections are laid over each other. -/
def overlaid : Option Json → Option Json → Option Json
  | base?, none => base?
  | none, some value => some value
  | some base, some value => some (overlay base value)

section Overlays

variable {name : String} {names rest : List String} {value : Json}
variable {base? own? : Option Json} {upper : List (String × Json)}

theorem overlaid_of_isLeaf (hvalue : IsLeaf value) (base? : Option Json) :
    overlaid base? (some value) = some value := by
  rcases base? with _ | base
  · rfl
  · cases value with
    | object members => exact absurd rfl (hvalue members)
    | _ => rfl

theorem overlayMembers_cons (members : List (String × Json)) :
    overlayMembers members ((name, value) :: upper) =
      overlayMembers (Json.insert name ((overlaid (lookup name members) (some value)).getD value)
        members) upper := by
  rw [overlayMembers]
  rcases lookup name members with _ | old <;> rfl

theorem some_getD_overlaid :
    some ((overlaid base? (some value)).getD value) = overlaid base? (some value) := by
  rcases base? with _ | base <;> rfl

theorem pairwise_overlayMembers {members : List (String × Json)}
    (hmembers : members.Pairwise fun first second ↦ first.1 < second.1) :
    (overlayMembers members upper).Pairwise fun first second ↦ first.1 < second.1 := by
  induction upper generalizing members with
  | nil => exact hmembers
  | cons member rest ih =>
    rw [overlayMembers_cons]
    exact ih (pairwise_insert hmembers)

/-- Two sections laid over each other hold under each name what the values there make. -/
theorem lookup_overlayMembers (hupper : upper.Pairwise fun first second ↦ first.1 < second.1)
    (members : List (String × Json)) :
    lookup name (overlayMembers members upper) =
      overlaid (lookup name members) (lookup name upper) := by
  induction upper generalizing members with
  | nil => rfl
  | cons member rest ih =>
    obtain ⟨key, value⟩ := member
    have hrest := List.pairwise_cons.mp hupper
    rw [overlayMembers_cons, ih hrest.2, lookup_insert, lookup]
    by_cases hname : key = name
    · subst hname
      rw [if_pos rfl, if_pos rfl, lookup_behind hupper]
      exact some_getD_overlaid
    · rw [if_neg hname, if_neg hname]

theorem overlayMembers_nil (hupper : upper.Pairwise fun first second ↦ first.1 < second.1) :
    overlayMembers [] upper = upper := by
  refine eq_of_lookup_eq (pairwise_overlayMembers .nil) hupper fun name ↦ ?_
  rw [lookup_overlayMembers hupper]
  show overlaid none (lookup name upper) = _
  rcases lookup name upper with _ | value <;> rfl

/-- A section laid over anything makes a section. -/
theorem overlaid_object (hupper : upper.Pairwise fun first second ↦ first.1 < second.1)
    (base? : Option Json) :
    overlaid base? (some (.object upper)) =
      some (.object (overlayMembers (membersOf base?) upper)) := by
  rcases shape base? with rfl | ⟨base, rfl, hleaf⟩ | ⟨members, rfl⟩
  · show some (Json.object upper) = some (.object (overlayMembers [] upper))
    rw [overlayMembers_nil hupper]
  · rw [membersOf_of_isLeaf hleaf, overlayMembers_nil hupper]
    cases base with
    | object members => exact absurd rfl (hleaf members)
    | _ => rfl
  · rfl

/-- What is met below two values laid over each other, the upper one a section. -/
theorem placeAt_overlaid_cons (hupper : upper.Pairwise fun first second ↦ first.1 < second.1)
    (base? : Option Json) :
    placeAt (name :: rest) (overlaid base? (some (.object upper))) =
      placeAt rest (overlaid (below? name base?) (lookup name upper)) := by
  rw [overlaid_object hupper, placeAt_object, lookup_overlayMembers hupper]
  rfl

theorem Ascending.overlaid (hbase : Ascending base?) (hown : Ascending own?) :
    Ascending (overlaid base? own?) := by
  intro names
  induction names generalizing base? own? with
  | nil =>
    intro members hplace
    rcases shape own? with rfl | ⟨own, rfl, hleaf⟩ | ⟨upper, rfl⟩
    · exact hbase [] members hplace
    · rw [overlaid_of_isLeaf hleaf] at hplace
      exact hown [] members hplace
    · rw [overlaid_object (hown [] upper rfl)] at hplace
      obtain rfl := Json.object.inj (Place.found.inj hplace)
      exact pairwise_overlayMembers hbase.members
  | cons name rest ih =>
    intro members hplace
    rcases shape own? with rfl | ⟨own, rfl, hleaf⟩ | ⟨upper, rfl⟩
    · exact hbase (name :: rest) members hplace
    · rw [overlaid_of_isLeaf hleaf] at hplace
      exact hown (name :: rest) members hplace
    · rw [placeAt_overlaid_cons (hown [] upper rfl)] at hplace
      exact ih (hbase.below? name) (hown.below? name) members hplace

/-- What is no section and stands in the section that is laid over stands there afterwards. -/
theorem placeAt_overlaid_of_isLeaf (hown : Ascending own?) (hvalue : IsLeaf value)
    (hplace : placeAt names own? = .found value) (base? : Option Json) :
    placeAt names (overlaid base? own?) = .found value := by
  induction names generalizing base? own? with
  | nil =>
    rw [eq_some_of_found hplace, overlaid_of_isLeaf hvalue]
    rfl
  | cons name rest ih =>
    obtain ⟨upper, rfl⟩ := exists_section_of_found hplace
    rw [placeAt_overlaid_cons (hown [] upper rfl)]
    exact ih (hown.below? name) hplace _

/-- Where the section that is laid over has nothing, what was below stays, unless a value that is no
section stands in the way there. -/
theorem placeAt_overlaid_of_absent (hown : Ascending own?)
    (habsent : placeAt names own? = .absent) (hopen : placeAt names base? ≠ .blocked) :
    placeAt names (overlaid base? own?) = placeAt names base? := by
  induction names generalizing base? own? with
  | nil =>
    rcases own? with _ | own
    · rfl
    · exact absurd habsent (by simp [placeAt])
  | cons name rest ih =>
    rcases shape own? with rfl | ⟨own, rfl, hleaf⟩ | ⟨upper, rfl⟩
    · rfl
    · exact absurd (habsent.symm.trans (placeAt_of_isLeaf hleaf)) (by simp)
    · have hstep := placeAt_cons hopen
      rw [placeAt_overlaid_cons (hown [] upper rfl), hstep]
      exact ih (hown.below? name) habsent (hstep ▸ hopen)

/-- A section that is laid over a value that is none takes its place, with all that is below. -/
theorem placeAt_overlaid_of_covered {above : List String} {members : List (String × Json)}
    (hown : Ascending own?) (hvalue : IsLeaf value) (hbase : placeAt above base? = .found value)
    (habove : placeAt above own? = .found (.object members)) (rest : List String) :
    placeAt (above ++ rest) (overlaid base? own?) = placeAt (above ++ rest) own? := by
  induction above generalizing base? own? with
  | nil =>
    obtain rfl := eq_some_of_found habove
    obtain rfl := eq_some_of_found hbase
    have hupper := hown [] members rfl
    rw [overlaid_object hupper, membersOf_of_isLeaf hvalue, overlayMembers_nil hupper]
  | cons name above ih =>
    obtain ⟨upper, rfl⟩ := exists_section_of_found habove
    obtain ⟨lower, rfl⟩ := exists_section_of_found hbase
    rw [List.cons_append, placeAt_overlaid_cons (hown [] upper rfl)]
    exact ih (hown.below? name) hbase habove

/-- What was edited does not show under a value that is no section and is laid over it. -/
theorem overlaid_edited (hbase : Ascending base?) (hown : Ascending own?) (hvalue : IsLeaf value)
    (hplace : placeAt names own? = .found value) (edit? : Option Json) :
    overlaid (edited edit? names base?) own? = overlaid base? own? := by
  induction names generalizing base? own? with
  | nil => rw [eq_some_of_found hplace, overlaid_of_isLeaf hvalue, overlaid_of_isLeaf hvalue]
  | cons name rest ih =>
    obtain ⟨upper, rfl⟩ := exists_section_of_found hplace
    have hupper := hown [] upper rfl
    rw [overlaid_object hupper, overlaid_object hupper]
    -- Both sections ascend, so that it is enough to compare them name by name.
    refine congrArg (fun members ↦ some (Json.object members)) (eq_of_lookup_eq
      (pairwise_overlayMembers (hbase.edited name rest))
      (pairwise_overlayMembers hbase.members) fun other ↦ ?_)
    rw [lookup_overlayMembers hupper, lookup_overlayMembers hupper]
    show overlaid (below? other (edited edit? (name :: rest) base?)) _ =
      overlaid (below? other base?) _
    rw [below?_edited]
    by_cases hother : name = other
    · subst hother
      rw [if_pos rfl]
      exact ih (hbase.below? name) (hown.below? name) hplace
    · rw [if_neg hother]

end Overlays

end ResourceLookup.Tree
