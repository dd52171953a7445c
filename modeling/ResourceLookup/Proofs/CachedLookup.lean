import ResourceLookup.Proofs.BatchLookup

/-!
# Lookups of what is there

A lookup trims the identifier that it is given and ignores a blank one
(`Repository.normalizeIds_singleton`). What is there under the trimmed identifier is found by every
way of looking it up, without a fetch (`Repository.find_of_contains`), and no lookup hands its hook
an identifier that is there: with a hook that does anything else for such identifiers it would be
the same lookup (`Fetch.SameForMissing`, `Repository.findByIds_congr_hook`).

Results are kept under identifiers as the remote wrote them. One with white space around it, or a
blank one, is there without being found by a lookup of the same text
(`Repository.contains_without_find`).
-/

set_option autoImplicit false
set_option relaxedAutoImplicit false

namespace ResourceLookup

/-- Two hooks do the same wherever none of the identifiers wanted is among the results. -/
def Fetch.SameForMissing (results : ResultCache) (fetch other : Fetch) : Prop :=
  ∀ (wanted : List String) (repository : Repository),
    (∀ id ∈ wanted, results.contains id = false) →
      fetch wanted repository = other wanted repository

namespace Repository

variable {repository : Repository} {fetch other : Fetch}

/-! ### Looking up one identifier -/

theorem normalizeIds_singleton (id : String) :
    normalizeIds [id] = if Text.trim id = "" then [] else [Text.trim id] := by
  unfold normalizeIds distinctIds
  by_cases hblank : Text.trim id = ""
  · simp [hblank, distinctIds]
  · simp [hblank, distinctIds]

/-- A blank identifier is ignored. -/
theorem findByIds_of_blank {id : String} (hblank : Text.trim id = "") :
    repository.findByIds fetch [id] = (.ok [], repository) := by
  have hnormal : normalizeIds [id] = [] := by rw [normalizeIds_singleton, if_pos hblank]
  have hpresent : ∀ asked ∈ normalizeIds [id], repository.results.contains asked = true := by
    rw [hnormal]
    exact fun _ hasked ↦ absurd hasked List.not_mem_nil
  rw [findByIds_of_nothing_missing hpresent, hnormal]
  rfl

/-- What is there under the trimmed identifier is the answer. -/
theorem findByIds_of_find? {id : String} {resource : Resource} (hblank : Text.trim id ≠ "")
    (hfound : repository.results.find? (Text.trim id) = some resource) :
    repository.findByIds fetch [id] = (.ok [resource], repository) := by
  have hnormal : normalizeIds [id] = [Text.trim id] := by rw [normalizeIds_singleton, if_neg hblank]
  have hthere : repository.results.contains (Text.trim id) = true := by
    rw [ResultCache.contains, hfound]
    rfl
  have hpresent : ∀ asked ∈ normalizeIds [id], repository.results.contains asked = true := by
    rw [hnormal]
    intro asked hasked
    rw [List.mem_singleton.mp hasked]
    exact hthere
  rw [findByIds_of_nothing_missing hpresent, hnormal, present, List.filterMap_cons_some hfound]
  rfl

/-- The lookup of one identifier is the first of a lookup of many. -/
theorem findById_of_findByIds {id : String} {found : List Resource} {after : Repository}
    (hfound : repository.findByIds fetch [id] = (.ok found, after)) :
    repository.findById fetch id = (.ok found.head?, after) := by
  rw [findById, hfound]

/-! ### What is fetched -/

theorem contains_eq_false_of_mem_missing {ids : List String} :
    ∀ id ∈ repository.missing ids, repository.results.contains id = false := by
  intro id hid
  have habsent := (List.mem_filter.mp hid).2
  rwa [Bool.not_eq_true'] at habsent

/-- A lookup does not depend on what its hook does for identifiers that are there. -/
theorem findByIds_congr_hook (hsame : fetch.SameForMissing repository.results other)
    (ids : List String) : repository.findByIds fetch ids = repository.findByIds other ids := by
  rcases repository.present_or_missing (normalizeIds ids) with hpresent | hmissing
  · rw [findByIds_of_nothing_missing hpresent, findByIds_of_nothing_missing hpresent]
  · rw [findByIds_of_missing hmissing, findByIds_of_missing hmissing,
      hsame _ _ contains_eq_false_of_mem_missing]

/-- Neither does a guarded lookup. -/
theorem findByIdsGuarded_congr_hook (hsame : fetch.SameForMissing repository.results other)
    {σ : Type} (cache : Option FailureCache) (store : FailureStore σ) (wall : WallClock)
    (lookupType : String) (ids : List String) (state : σ) :
    repository.findByIdsGuarded cache store wall fetch lookupType ids state =
      repository.findByIdsGuarded cache store wall other lookupType ids state := by
  have hreported : ∀ events, (repository.reportAll events).findByIds fetch ids =
      (repository.reportAll events).findByIds other ids :=
    fun events ↦ @findByIds_congr_hook (repository.reportAll events) fetch other hsame ids
  cases cache with
  | none => simp only [findByIdsGuarded, findByIds_congr_hook hsame ids]
  | some failures =>
    simp only [findByIdsGuarded, findGuarded, findByIds_congr_hook hsame ids, hreported]

/-! ### Whatever is there can be looked up -/

/-- What is there can be looked up. Assumes: a repository with a history. If a resource is there
under an identifier as it is without white space around it, and that is not blank, every lookup of
the identifier brings exactly this resource: a lookup of many and a lookup of one, which leave the
repository as it is whatever their hook does, and a lookup that never fetches. A blank identifier is
ignored. No lookup fetches what is there: two hooks that do the same for identifiers that are not
there make no difference. -/
theorem find_of_contains (hreachable : repository.Reachable) (id : String) :
    (repository.results.contains (Text.trim id) = true → Text.trim id ≠ "" →
      ∃ resource, repository.results.find? (Text.trim id) = some resource ∧
        resource.id = Text.trim id ∧
        (∀ fetch, repository.findByIds fetch [id] = (.ok [resource], repository)) ∧
        (∀ fetch, repository.findById fetch id = (.ok (some resource), repository)) ∧
        repository.peek id = some resource) ∧
    (Text.trim id = "" →
      (∀ fetch, repository.findByIds fetch [id] = (.ok [], repository)) ∧
        ∀ fetch, repository.findById fetch id = (.ok none, repository)) ∧
    ∀ fetch other : Fetch, fetch.SameForMissing repository.results other →
      (∀ ids, repository.findByIds fetch ids = repository.findByIds other ids) ∧
        (∀ asked, repository.findById fetch asked = repository.findById other asked) ∧
        ∀ (σ : Type) (cache : Option FailureCache) (store : FailureStore σ) (wall : WallClock)
          (lookupType : String) (ids : List String) (state : σ),
          repository.findByIdsGuarded cache store wall fetch lookupType ids state =
            repository.findByIdsGuarded cache store wall other lookupType ids state := by
  refine ⟨fun hthere hblank ↦ ?_, fun hblank ↦ ⟨fun fetch ↦ ?_, fun fetch ↦ ?_⟩, ?_⟩
  · obtain ⟨resource, hfound⟩ := Option.isSome_iff_exists.mp hthere
    refine ⟨resource, hfound, hreachable.keyedById _ resource hfound, fun fetch ↦ ?_,
      fun fetch ↦ ?_, hfound⟩
    · exact findByIds_of_find? hblank hfound
    · exact findById_of_findByIds (findByIds_of_find? hblank hfound)
  · exact findByIds_of_blank hblank
  · exact findById_of_findByIds (findByIds_of_blank hblank)
  · intro fetch other hsame
    refine ⟨findByIds_congr_hook hsame, fun asked ↦ ?_, fun σ cache store wall lookupType ids
      state ↦ findByIdsGuarded_congr_hook hsame cache store wall lookupType ids state⟩
    rw [findById, findById, findByIds_congr_hook hsame [asked]]

theorem find_of_contains_spaced :
    stockedRepository.Reachable ∧ stockedRepository.results.contains "2" = true ∧
      ∃ resource, resource.id = "2" ∧
        stockedRepository.findByIds deliver [" 2"] = (.ok [resource], stockedRepository) ∧
        stockedRepository.peek " 2" = some resource := by
  have hreachable : stockedRepository.Reachable := .cacheDocument _ (.start _)
  have hthere : stockedRepository.results.contains "2" = true := by decide
  obtain ⟨hfind, -, -⟩ := find_of_contains hreachable " 2"
  obtain ⟨resource, -, hid, hmany, -, hpeek⟩ := hfind (by decide) (by decide)
  exact ⟨hreachable, hthere, resource, hid, hmany deliver, hpeek⟩

/-- A document with two products whose identifiers no lookup asks for. -/
def spacedDelivery : Document :=
  { Document.empty with data := some (.many [.new "products" " ", .new "products" " 7 "]) }

/-- Two resources that are there and are not found: a lookup of the blank identifier ignores it, and
one of an identifier with white space around it neither finds nor spares a fetch. -/
theorem contains_without_find :
    ∃ repository : Repository, repository.Reachable ∧
      (repository.results.contains " " = true ∧
        ∀ fetch, repository.findByIds fetch [" "] = (.ok [], repository)) ∧
      repository.results.contains " 7 " = true ∧ repository.peek " 7 " = none ∧
        repository.missing (normalizeIds [" 7 "]) = ["7"] := by
  refine ⟨((start (Session.start idleClient)).cacheDocument spacedDelivery).2,
    .cacheDocument _ (.start _), ⟨by decide, fun fetch ↦ ?_⟩, by decide, by decide, by decide⟩
  exact findByIds_of_blank (by decide)

end Repository

end ResourceLookup
