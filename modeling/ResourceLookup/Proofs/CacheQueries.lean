import Mathlib.Data.List.Nodup
import ResourceLookup.Proofs.BatchLookup
import ResourceLookup.Proofs.JsonText

/-!
# Queries over results

Results are a table: every identifier occurs once, with a resource of that identifier
(`ResultCache.Indexed`). Documents keep it that way (`ResultCache.Indexed.add`), so that the results
of every repository that has a history are one (`Repository.Reachable.indexed`).

A query is a chain of conditions (`QueryStep`). It picks what meets the chain
(`ResourceQuery.isMatch_ofChain`), where values are compared as data, which is equality except for
floating point numbers (`Json.Plain.sameValue_iff`). It puts what it picks in order; resources of
distinct identifiers have one order only, so that tables with the same entries give the same answers
(`ResourceQuery.sameAnswers_of_perm`). What is found after documents have come in is the latest
resource of each identifier, and where no two documents share an identifier it does not matter which
document came first (`Intake.latest?_of_perm`).
-/

set_option autoImplicit false
set_option relaxedAutoImplicit false

namespace ResourceLookup

/-! ### Equal values -/

namespace Json

variable {depth : Nat} {value other : Json}

theorem sameElements_iff {elements others : List Json}
    (hsame : ∀ element ∈ elements, ∀ other, element.sameValue other = true ↔ element = other) :
    sameElements elements others = true ↔ elements = others := by
  induction elements generalizing others with
  | nil => cases others <;> simp [sameElements]
  | cons element rest ih =>
    rw [List.forall_mem_cons] at hsame
    cases others with
    | nil => simp [sameElements]
    | cons other others =>
      rw [sameElements, Bool.and_eq_true, hsame.1, ih hsame.2, List.cons.injEq]

theorem sameMembers_iff {members others : List (String × Json)}
    (hsame : ∀ member ∈ members, ∀ other, member.2.sameValue other = true ↔ member.2 = other) :
    sameMembers members others = true ↔ members = others := by
  induction members generalizing others with
  | nil => cases others <;> simp [sameMembers]
  | cons member rest ih =>
    rw [List.forall_mem_cons] at hsame
    cases others with
    | nil => simp [sameMembers]
    | cons other others =>
      rw [sameMembers, Bool.and_eq_true, Bool.and_eq_true, hsame.1, ih hsame.2, beq_iff_eq,
        List.cons.injEq, Prod.ext_iff]

/-- Without floating point numbers only equal values are the same data. -/
theorem Plain.sameValue_iff (hplain : Plain depth value) :
    value.sameValue other = true ↔ value = other := by
  induction hplain generalizing other with
  | null => cases other <;> simp [sameValue]
  | bool value => cases other <;> simp [sameValue]
  | integer =>
    cases other with
    | number number => cases number <;> simp [sameValue, sameNumber]
    | _ => simp [sameValue]
  | string text => cases other <;> simp [sameValue]
  | array _ ih =>
    cases other with
    | array others =>
      rw [sameValue, sameElements_iff fun element hmem _ ↦ ih element hmem, Json.array.injEq]
    | _ => simp [sameValue]
  | object _ ih =>
    cases other with
    | object others =>
      rw [sameValue, sameMembers_iff fun member hmem _ ↦ ih member hmem, Json.object.injEq]
    | _ => simp [sameValue]

end Json

namespace ResultCache

/-! ### Results as a table -/

/-- Every identifier occurs once, and what is kept under it is of that identifier. -/
structure Indexed (cache : ResultCache) : Prop where
  distinct : (cache.items.map Prod.fst).Nodup
  own : ∀ entry ∈ cache.items, entry.2.id = entry.1

theorem fst_setEntry (id : String) (resource : Resource) (items : List (String × Resource)) :
    (setEntry id resource items).map Prod.fst =
      if id ∈ items.map Prod.fst then items.map Prod.fst else items.map Prod.fst ++ [id] := by
  induction items with
  | nil => rfl
  | cons entry rest ih =>
    obtain ⟨other, old⟩ := entry
    rw [setEntry]
    simp only [List.map_cons, List.mem_cons]
    by_cases hother : other = id
    · rw [if_pos hother, if_pos (.inl hother.symm), List.map_cons, hother]
    · simp only [if_neg hother, List.map_cons, ih, or_iff_right (Ne.symm hother)]
      split <;> rfl

theorem eq_or_mem_of_mem_setEntry {id : String} {resource : Resource}
    {items : List (String × Resource)} {entry : String × Resource}
    (hentry : entry ∈ setEntry id resource items) : entry = (id, resource) ∨ entry ∈ items := by
  induction items with
  | nil => exact .inl (List.mem_singleton.mp hentry)
  | cons first rest ih =>
    rw [setEntry] at hentry
    split at hentry
    · exact (List.mem_cons.mp hentry).imp_right (List.mem_cons_of_mem first)
    · rcases List.mem_cons.mp hentry with rfl | hrest
      · exact .inr List.mem_cons_self
      · exact (ih hrest).imp_right (List.mem_cons_of_mem first)

/-- With distinct identifiers what is found is what is kept. -/
theorem findEntry?_eq_some_iff {id : String} {resource : Resource}
    {items : List (String × Resource)} (hdistinct : (items.map Prod.fst).Nodup) :
    findEntry? id items = some resource ↔ (id, resource) ∈ items := by
  induction items with
  | nil => exact ⟨nofun, nofun⟩
  | cons entry rest ih =>
    obtain ⟨other, old⟩ := entry
    rw [List.map_cons, List.nodup_cons] at hdistinct
    rw [List.mem_cons, Prod.mk.injEq, findEntry?]
    by_cases hother : other = id
    · subst hother
      have habsent : (other, resource) ∉ rest := fun hmem ↦
        hdistinct.1 (List.mem_map.mpr ⟨_, hmem, rfl⟩)
      rw [if_pos rfl, Option.some.injEq, or_iff_left habsent, and_iff_right rfl]
      exact eq_comm
    · rw [if_neg hother, ih hdistinct.2, or_iff_right fun hsame ↦ hother hsame.1.symm]

namespace Indexed

variable {cache other : ResultCache}

theorem empty : Indexed empty where
  distinct := .nil
  own _ hentry := nomatch hentry

/-- A resource that comes in keeps the table. -/
theorem add (hcache : cache.Indexed) (resource : Resource) : (cache.add resource).Indexed where
  distinct := by
    rw [ResultCache.add, fst_setEntry]
    split
    · exact hcache.distinct
    · next hnew =>
      refine List.nodup_append.mpr ⟨hcache.distinct, List.pairwise_singleton _ _, ?_⟩
      rintro id hid _ hlast rfl
      exact hnew (List.mem_singleton.mp hlast ▸ hid)
  own entry hentry := by
    rcases eq_or_mem_of_mem_setEntry hentry with rfl | hold
    · rfl
    · exact hcache.own entry hold

theorem find?_eq_some_iff (hcache : cache.Indexed) {id : String} {resource : Resource} :
    cache.find? id = some resource ↔ (id, resource) ∈ cache.items :=
  findEntry?_eq_some_iff hcache.distinct

theorem nodup_items (hcache : cache.Indexed) : cache.items.Nodup :=
  .of_map Prod.fst hcache.distinct

theorem mem_resources (hcache : cache.Indexed) {resource : Resource} :
    resource ∈ cache.resources ↔ cache.find? resource.id = some resource := by
  rw [hcache.find?_eq_some_iff, resources, List.mem_map]
  constructor
  · rintro ⟨⟨id, kept⟩, hentry, rfl⟩
    rw [hcache.own _ hentry]
    exact hentry
  · exact fun hentry ↦ ⟨_, hentry, rfl⟩

/-- The identifiers of the resources are distinct. -/
theorem nodup_ids (hcache : cache.Indexed) : (cache.resources.map Resource.id).Nodup := by
  have hids : cache.resources.map Resource.id = cache.items.map Prod.fst := by
    rw [resources, List.map_map]
    exact List.map_congr_left hcache.own
  rw [hids]
  exact hcache.distinct

/-- Tables in which the same is found have the same entries. -/
theorem perm_of_find?_eq (hcache : cache.Indexed) (hother : other.Indexed)
    (hfound : ∀ id, cache.find? id = other.find? id) : cache.items.Perm other.items := by
  refine (List.perm_ext_iff_of_nodup hcache.nodup_items hother.nodup_items).mpr ?_
  rintro ⟨id, resource⟩
  rw [← hcache.find?_eq_some_iff, ← hother.find?_eq_some_iff, hfound]

end Indexed

end ResultCache

theorem Repository.Reachable.indexed {repository : Repository}
    (hreachable : repository.Reachable) : repository.results.Indexed :=
  hreachable.leadsTo.keeps .empty (fun _ resource hcache ↦ hcache.add resource) .empty

/-! ### Chains of conditions -/

/-- A condition put on a query. -/
inductive QueryStep where
  | ofKind (kind : String)
  | whereAttribute (name : String) (value : Json)

namespace QueryStep

/-- The type that a condition names. -/
def kind? : QueryStep → Option String
  | ofKind kind => some kind
  | whereAttribute _ _ => none

/-- The attribute that a condition names, with its value. -/
def attribute? : QueryStep → Option (String × Json)
  | ofKind _ => none
  | whereAttribute name value => some (name, value)

/-- A resource meets a chain of conditions: it is of the last type named, if one is, and has every
attribute named with that value. -/
structure AllMet (chain : List QueryStep) (resource : Resource) : Prop where
  kind : ∀ kind ∈ (chain.filterMap kind?).getLast?, resource.kind = kind
  attributes : ∀ name value, whereAttribute name value ∈ chain →
    ∃ found, resource.attributeNamed? name = some found ∧ found.sameValue value = true

end QueryStep

namespace ResourceQuery

open QueryStep (kind? attribute? AllMet)

/-- The query with one more condition. -/
def restrict (query : ResourceQuery) : QueryStep → ResourceQuery
  | .ofKind kind => query.ofKind kind
  | .whereAttribute name value => query.whereAttribute name value

/-- The query with the conditions of a chain in turn. -/
def ofChain (chain : List QueryStep) : ResourceQuery :=
  chain.foldl restrict everything

theorem kind_foldl_restrict (chain : List QueryStep) (query : ResourceQuery) :
    (chain.foldl restrict query).kind = (chain.filterMap kind?).getLast?.or query.kind := by
  induction chain generalizing query with
  | nil => rfl
  | cons step rest ih =>
    rw [List.foldl_cons, ih]
    cases step with
    | ofKind kind =>
      show _ = (kind :: rest.filterMap kind?).getLast?.or query.kind
      rw [List.getLast?_cons]
      cases (rest.filterMap kind?).getLast? <;> rfl
    | whereAttribute name value => rfl

theorem attributes_foldl_restrict (chain : List QueryStep) (query : ResourceQuery) :
    (chain.foldl restrict query).attributes = query.attributes ++ chain.filterMap attribute? := by
  induction chain generalizing query with
  | nil => exact (List.append_nil _).symm
  | cons step rest ih =>
    rw [List.foldl_cons, ih]
    cases step with
    | ofKind kind => rfl
    | whereAttribute name value => exact List.append_assoc query.attributes [(name, value)] _

theorem hasAttribute_iff {resource : Resource} {name : String} {value : Json} :
    hasAttribute resource name value = true ↔
      ∃ found, resource.attributeNamed? name = some found ∧ found.sameValue value = true := by
  rw [hasAttribute]
  cases resource.attributeNamed? name with
  | none => exact ⟨nofun, nofun⟩
  | some found =>
    refine ⟨fun hsame ↦ ⟨found, rfl, hsame⟩, ?_⟩
    rintro ⟨other, hother, hsame⟩
    obtain rfl := Option.some.inj hother
    exact hsame

/-- A query picks what meets its chain. -/
theorem isMatch_ofChain {chain : List QueryStep} {resource : Resource} :
    (ofChain chain).isMatch resource = true ↔ AllMet chain resource := by
  have hkind : (ofChain chain).kind = (chain.filterMap kind?).getLast? := by
    rw [ofChain, kind_foldl_restrict, everything, Option.or_none]
  have hattributes : (ofChain chain).attributes = chain.filterMap attribute? :=
    attributes_foldl_restrict chain everything
  have hnamed : ∀ name value, (name, value) ∈ (ofChain chain).attributes ↔
      QueryStep.whereAttribute name value ∈ chain := by
    intro name value
    rw [hattributes, List.mem_filterMap]
    constructor
    · rintro ⟨step, hstep, hread⟩
      cases step with
      | ofKind kind => cases hread
      | whereAttribute name value =>
        cases hread
        exact hstep
    · exact fun hstep ↦ ⟨_, hstep, rfl⟩
  rw [isMatch, Bool.and_eq_true, List.all_eq_true, hkind]
  constructor
  · rintro ⟨hmatch, hall⟩
    refine ⟨fun kind hlast ↦ ?_, fun name value hstep ↦ ?_⟩
    · rw [Option.mem_def.mp hlast] at hmatch
      exact beq_iff_eq.mp hmatch
    · exact hasAttribute_iff.mp (hall _ ((hnamed name value).mpr hstep))
  · intro hmet
    refine ⟨?_, fun (name, value) hmem ↦ hasAttribute_iff.mpr (hmet.attributes name value
      ((hnamed name value).mp hmem))⟩
    split
    · next kind hlast => exact beq_iff_eq.mpr (hmet.kind kind hlast)
    · rfl

/-! ### Order -/

section Order

variable {resource : Resource} {resources : List Resource}

theorem perm_insertById (resource : Resource) (sorted : List Resource) :
    (insertById resource sorted).Perm (resource :: sorted) := by
  induction sorted with
  | nil => exact .refl _
  | cons first rest ih =>
    rw [insertById]
    split
    · exact .refl _
    · exact (ih.cons first).trans (.swap resource first rest)

theorem perm_sortById (resources : List Resource) : (sortById resources).Perm resources := by
  have hfold : ∀ sorted : List Resource,
      (resources.foldl (fun sorted resource ↦ insertById resource sorted) sorted).Perm
        (resources ++ sorted) := by
    induction resources with
    | nil => exact fun sorted ↦ .refl sorted
    | cons first rest ih =>
      exact fun sorted ↦ (ih _).trans
        (((perm_insertById first sorted).append_left rest).trans List.perm_middle)
  exact (hfold []).trans (.of_eq (List.append_nil resources))

theorem pairwise_insertById (resource : Resource) {sorted : List Resource}
    (hsorted : sorted.Pairwise fun first second ↦ first.id ≤ second.id) :
    (insertById resource sorted).Pairwise fun first second ↦ first.id ≤ second.id := by
  induction sorted with
  | nil => exact List.pairwise_singleton _ _
  | cons first rest ih =>
    have hrest := List.pairwise_cons.mp hsorted
    rw [insertById]
    split
    · next hbefore =>
      refine .cons (fun other hother ↦ ?_) hsorted
      have hle : resource.id ≤ first.id := Std.le_of_lt hbefore
      rcases List.mem_cons.mp hother with rfl | hother
      · exact hle
      · exact String.le_trans hle (hrest.1 other hother)
    · next hbehind =>
      refine .cons (fun other hother ↦ ?_) (ih hrest.2)
      rcases List.mem_cons.mp ((perm_insertById resource rest).mem_iff.mp hother) with rfl | hother
      · exact String.not_lt.mp hbehind
      · exact hrest.1 other hother

theorem pairwise_le_sortById (resources : List Resource) :
    (sortById resources).Pairwise fun first second ↦ first.id ≤ second.id := by
  have hfold : ∀ sorted : List Resource,
      (sorted.Pairwise fun first second ↦ first.id ≤ second.id) →
      (resources.foldl (fun sorted resource ↦ insertById resource sorted) sorted).Pairwise
        fun first second ↦ first.id ≤ second.id := by
    induction resources with
    | nil => exact fun _ hsorted ↦ hsorted
    | cons first rest ih => exact fun _ hsorted ↦ ih _ (pairwise_insertById first hsorted)
  exact hfold [] .nil

/-- Resources of distinct identifiers are put in strictly ascending order. -/
theorem pairwise_sortById (hdistinct : (resources.map Resource.id).Nodup) :
    (sortById resources).Pairwise fun first second ↦ first.id < second.id := by
  have hsorted : ((sortById resources).map Resource.id).Nodup :=
    ((perm_sortById resources).map Resource.id).nodup_iff.mpr hdistinct
  exact (pairwise_le_sortById resources).imp₂ (fun _ _ hle hne ↦ Std.lt_of_le_of_ne hle hne)
    (List.pairwise_map.mp hsorted)

/-- The order in which resources of distinct identifiers come does not matter. -/
theorem sortById_eq_of_perm {others : List Resource} (hperm : others.Perm resources)
    (hdistinct : (resources.map Resource.id).Nodup) : sortById others = sortById resources := by
  have hothers : (others.map Resource.id).Nodup := (hperm.map Resource.id).nodup_iff.mpr hdistinct
  exact ((perm_sortById others).trans (hperm.trans (perm_sortById resources).symm)).eq_of_pairwise
    (fun _ _ _ _ hless hgreater ↦ absurd hgreater (String.lt_asymm hless))
    (pairwise_sortById hothers) (pairwise_sortById hdistinct)

end Order

/-! ### Answers -/

section Answers

variable {cache other : ResultCache}

/-- Two results give the same answers to a query. -/
structure SameAnswers (query : ResourceQuery) (cache other : ResultCache) : Prop where
  all : query.all cache = query.all other
  first : query.first? cache = query.first? other
  ids : query.ids cache = query.ids other
  count : query.count cache = query.count other

/-- The order in which entries are kept does not matter. -/
theorem sameAnswers_of_perm (query : ResourceQuery) (hcache : cache.Indexed)
    (hperm : other.items.Perm cache.items) : query.SameAnswers other cache := by
  have hresources : other.resources.Perm cache.resources := hperm.map _
  have hall : query.all other = query.all cache :=
    sortById_eq_of_perm (hresources.filter _)
      (hcache.nodup_ids.sublist (List.filter_sublist.map Resource.id))
  exact {
    all := hall
    first := congrArg List.head? hall
    ids := congrArg (List.map Resource.id) hall
    count := hresources.countP_eq _ }

/-- What is picked is in strictly ascending order of the octets of the identifiers. -/
theorem pairwise_all (query : ResourceQuery) (hcache : cache.Indexed) :
    (query.all cache).Pairwise fun first second ↦
      Text.octets first.id < Text.octets second.id :=
  (pairwise_sortById (hcache.nodup_ids.sublist (List.filter_sublist.map Resource.id))).imp
    Text.octets_lt_octets_iff.mpr

theorem mem_all (query : ResourceQuery) (hcache : cache.Indexed) {resource : Resource} :
    resource ∈ query.all cache ↔
      cache.find? resource.id = some resource ∧ query.isMatch resource = true := by
  rw [all, (perm_sortById _).mem_iff, List.mem_filter, hcache.mem_resources]

/-- As many are picked as are counted. -/
theorem count_eq_length_all (query : ResourceQuery) (cache : ResultCache) :
    query.count cache = (query.all cache).length := by
  rw [count, List.countP_eq_length_filter, all, (perm_sortById _).length_eq]

end Answers

end ResourceQuery

/-! ### Documents in any order -/

/-- The latest of the resources with that identifier. -/
def latest? (id : String) (resources : List Resource) : Option Resource :=
  resources.reverse.find? fun resource ↦ resource.id == id

theorem latest?_eq_none {id : String} {resources : List Resource}
    (habsent : ∀ resource ∈ resources, resource.id ≠ id) : latest? id resources = none :=
  List.find?_eq_none.mpr fun resource hresource hid ↦
    habsent resource (List.mem_reverse.mp hresource) (beq_iff_eq.mp hid)

theorem latest?_append (id : String) (first second : List Resource) :
    latest? id (first ++ second) = (latest? id second).or (latest? id first) := by
  rw [latest?, List.reverse_append, List.find?_append]
  rfl

/-- Of the resources that come in the latest is found, or what was there. -/
theorem ResultCache.find?_addAll (id : String) (resources : List Resource) (cache : ResultCache) :
    (resources.foldl add cache).find? id = (latest? id resources).or (cache.find? id) := by
  induction resources generalizing cache with
  | nil => rfl
  | cons resource rest ih =>
    rw [List.foldl_cons, ih, find?_add, ← List.singleton_append, latest?_append, Option.or_assoc,
      latest?, latest?, List.reverse_singleton, List.find?_singleton]
    by_cases hid : resource.id = id
    · rw [if_pos hid, if_pos (beq_iff_eq.mpr hid), Option.some_or]
    · rw [if_neg hid, if_neg (mt beq_iff_eq.mp hid), Option.none_or]

/-- A document that comes in, with all its primary resources or with a single one. -/
inductive Intake where
  | all (document : Document)
  | single (document : Document)

namespace Intake

/-- The resources that come in. -/
def resources : Intake → List Resource
  | all ⟨none, _, _, _, _⟩ => []
  | all ⟨some data, _, _, _, _⟩ => data.resources
  | single ⟨some (.one resource), _, _, _, _⟩ => [resource]
  | single _ => []

/-- No identifier comes in with both. -/
def Apart (first second : Intake) : Prop :=
  ∀ resource ∈ first.resources, ∀ other ∈ second.resources, resource.id ≠ other.id

instance (first second : Intake) : Decidable (first.Apart second) :=
  inferInstanceAs (Decidable
    (∀ resource ∈ first.resources, ∀ other ∈ second.resources, resource.id ≠ other.id))

theorem Apart.symm {first second : Intake} (hapart : first.Apart second) : second.Apart first :=
  fun resource hresource other hother hid ↦ hapart other hother resource hresource hid.symm

theorem Apart.latest? {first second : Intake} (hapart : first.Apart second) (id : String) :
    latest? id first.resources = none ∨ latest? id second.resources = none := by
  by_cases hfirst : ∃ resource ∈ first.resources, resource.id = id
  · obtain ⟨resource, hresource, rfl⟩ := hfirst
    exact .inr (latest?_eq_none fun other hother hid ↦
      hapart resource hresource other hother hid.symm)
  · exact .inl (latest?_eq_none fun resource hresource hid ↦ hfirst ⟨resource, hresource, hid⟩)

/-- Where no two documents share an identifier their order does not matter to what is latest. -/
theorem latest?_of_perm {others intakes : List Intake} (hperm : others.Perm intakes)
    (hapart : others.Pairwise Apart) (id : String) :
    ResourceLookup.latest? id (others.flatMap resources) =
      ResourceLookup.latest? id (intakes.flatMap resources) := by
  induction hperm with
  | nil => rfl
  | cons intake _ ih =>
    rw [List.flatMap_cons, List.flatMap_cons, latest?_append, latest?_append,
      ih (List.pairwise_cons.mp hapart).2]
  | swap first second rest =>
    have hpair : second.Apart first := (List.pairwise_cons.mp hapart).1 first List.mem_cons_self
    simp only [List.flatMap_cons, latest?_append]
    rcases hpair.latest? id with hnone | hnone <;> rw [hnone] <;> simp
  | trans hfirst _ ih₁ ih₂ => exact (ih₁ hapart).trans (ih₂ (hapart.perm hfirst Apart.symm))

end Intake

namespace Repository

variable {repository : Repository}

/-- The repository after a document has come in. -/
def receive (repository : Repository) : Intake → Repository
  | .all document => (repository.cacheDocument document).2
  | .single document => (repository.cacheSingle document).2

theorem results_receive (repository : Repository) (intake : Intake) :
    (repository.receive intake).results =
      intake.resources.foldl ResultCache.add repository.results := by
  rcases intake with ⟨_ | data, _, _, _, _⟩ | ⟨_ | resources | resource, _, _, _, _⟩ <;> rfl

theorem results_foldl_receive (intakes : List Intake) (repository : Repository) :
    (intakes.foldl receive repository).results =
      (intakes.flatMap Intake.resources).foldl ResultCache.add repository.results := by
  induction intakes generalizing repository with
  | nil => rfl
  | cons intake rest ih =>
    rw [List.foldl_cons, ih, results_receive, List.flatMap_cons, List.foldl_append]

theorem Reachable.foldl_receive (hreachable : repository.Reachable) (intakes : List Intake) :
    (intakes.foldl receive repository).Reachable := by
  induction intakes generalizing repository with
  | nil => exact hreachable
  | cons intake rest ih =>
    refine ih ?_
    cases intake with
    | all document => exact .cacheDocument document hreachable
    | single document => exact .cacheSingle document hreachable

/-- What queries over the results answer. Assumes: a repository with a history. A query picks the
resources that are there and meet its chain of conditions, each once, in strictly ascending order of
the octets of their identifiers; their number, their identifiers and the first of them are its other
answers. The same is answered in whatever order entries are kept, and in whatever order documents
have come in of which no two share an identifier. -/
theorem query_picks (hreachable : repository.Reachable) (chain : List QueryStep) :
    let query := ResourceQuery.ofChain chain
    let results := repository.results
    (query.all results).Pairwise
        (fun first second ↦ Text.octets first.id < Text.octets second.id) ∧
      (∀ resource, resource ∈ query.all results ↔
        results.find? resource.id = some resource ∧ QueryStep.AllMet chain resource) ∧
      query.count results = (query.all results).length ∧
      query.ids results = (query.all results).map Resource.id ∧
      query.first? results = (query.all results).head? ∧
      (∀ listed : ResultCache, listed.items.Perm results.items →
        query.SameAnswers listed results) ∧
      ∀ intakes others : List Intake, others.Perm intakes → others.Pairwise Intake.Apart →
        query.SameAnswers (others.foldl receive repository).results
          (intakes.foldl receive repository).results := by
  intro query results
  have hresults : results.Indexed := hreachable.indexed
  refine ⟨query.pairwise_all hresults, fun resource ↦ ?_, query.count_eq_length_all results, rfl,
    rfl, fun listed hperm ↦ query.sameAnswers_of_perm hresults hperm,
    fun intakes others hperm hapart ↦ ?_⟩
  · rw [query.mem_all hresults, ResourceQuery.isMatch_ofChain]
  · have hintakes := (hreachable.foldl_receive intakes).indexed
    have hothers := (hreachable.foldl_receive others).indexed
    refine query.sameAnswers_of_perm hintakes (hothers.perm_of_find?_eq hintakes fun id ↦ ?_)
    rw [results_foldl_receive, results_foldl_receive, ResultCache.find?_addAll,
      ResultCache.find?_addAll, Intake.latest?_of_perm hperm hapart]

/-- A product of a colour. -/
def painted (id color : String) : Resource :=
  (Resource.new "products" id).withAttribute "color" (.string color)

/-- A document with two products and a user, all red. -/
def redDelivery : Document :=
  { Document.empty with
    data := some (.many [painted "2" "red", painted "10" "red",
      (Resource.new "users" "4").withAttribute "color" (.string "red")]) }

/-- A document with a single product, which is blue. -/
def blueDelivery : Document :=
  { Document.empty with data := some (.one (painted "3" "blue")) }

theorem query_picks_red :
    let chain := [QueryStep.ofKind "users", .whereAttribute "color" (.string "red"),
      .ofKind "products"]
    let query := ResourceQuery.ofChain chain
    let intakes := [Intake.all redDelivery, .single blueDelivery]
    let stocked := intakes.foldl receive (start (Session.start idleClient))
    stocked.Reachable ∧ intakes.reverse.Perm intakes ∧ intakes.reverse.Pairwise Intake.Apart ∧
      query.ids stocked.results = ["10", "2"] ∧
      query.count stocked.results = 2 ∧
      query.all (intakes.reverse.foldl receive (start (Session.start idleClient))).results =
        query.all stocked.results := by
  intro chain query intakes stocked
  have hstart : (start (Session.start idleClient)).Reachable := .start _
  have hreachable : stocked.Reachable := hstart.foldl_receive intakes
  have hperm : intakes.reverse.Perm intakes := List.reverse_perm intakes
  have hapart : intakes.reverse.Pairwise Intake.Apart := by decide
  obtain ⟨-, -, hcount, hids, -⟩ := query_picks hreachable chain
  obtain ⟨-, -, -, -, -, -, hany⟩ := query_picks hstart chain
  have hlisted : query.ids stocked.results = ["10", "2"] := by decide
  refine ⟨hreachable, hperm, hapart, hlisted, ?_, (hany intakes _ hperm hapart).all⟩
  rw [hcount, ← List.length_map Resource.id, ← hids, hlisted]
  rfl

end Repository

end ResourceLookup
