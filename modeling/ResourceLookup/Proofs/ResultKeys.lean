import ResourceLookup.Repository.Fetch

/-!
# Results under their own identifiers

Results change when resources of a document come in, when the single one of a document comes in, and
when all go (`ResultChange`). A hook may do anything to a repository, but to its results only this
(`Fetch.ChangesResults`); the usual ways to fetch do (`FetchPlan.fetch_changesResults`).

What holds without resources and stays when a resource comes in holds after all changes
(`ResultCache.LeadsTo.keeps`). Whatever comes in is kept under its own identifier, also where a
document has several resources of one identifier (`ResultCache.KeyedById.add`). Hence every resource
that is found is found under its own (`ResultCache.KeyedById.leadsTo`).
-/

set_option autoImplicit false
set_option relaxedAutoImplicit false

namespace ResourceLookup

/-- A change of the results of a repository. -/
inductive ResultChange where
  | addDocument (document : Document)
  | addSingle (document : Document)
  | drop

namespace ResultCache

/-- The results after a change. -/
def change (cache : ResultCache) : ResultChange → ResultCache
  | .addDocument document => (cache.addDocument document).2
  | .addSingle document => (cache.addSingle document).2
  | .drop => empty

/-- Changes in turn lead from the first results to the second. -/
def LeadsTo (before after : ResultCache) : Prop :=
  ∃ changes : List ResultChange, changes.foldl change before = after

namespace LeadsTo

variable {before between after : ResultCache}

theorem refl (cache : ResultCache) : LeadsTo cache cache :=
  ⟨[], rfl⟩

theorem change (cache : ResultCache) (made : ResultChange) : LeadsTo cache (cache.change made) :=
  ⟨[made], rfl⟩

theorem trans (hfirst : LeadsTo before between) (hsecond : LeadsTo between after) :
    LeadsTo before after := by
  obtain ⟨first, rfl⟩ := hfirst
  obtain ⟨second, rfl⟩ := hsecond
  exact ⟨first ++ second, List.foldl_append⟩

/-- What holds without resources and stays when one comes in holds after all changes. -/
theorem keeps {property : ResultCache → Prop} (hempty : property empty)
    (hadd : ∀ (cache : ResultCache) (resource : Resource),
      property cache → property (cache.add resource))
    (hleads : LeadsTo before after) (hbefore : property before) : property after := by
  have haddAll : ∀ (resources : List Resource) (cache : ResultCache),
      property cache → property (resources.foldl add cache) := by
    intro resources
    induction resources with
    | nil => exact fun _ hcache ↦ hcache
    | cons resource rest ih => exact fun cache hcache ↦ ih _ (hadd cache resource hcache)
  obtain ⟨changes, rfl⟩ := hleads
  induction changes generalizing before with
  | nil => exact hbefore
  | cons made rest ih =>
    refine ih ?_
    cases made with
    | addDocument document =>
      rw [ResultCache.change, addDocument]
      split
      · exact hbefore
      · exact haddAll _ _ hbefore
    | addSingle document =>
      rw [ResultCache.change, addSingle]
      split
      · exact hadd _ _ hbefore
      · exact hbefore
    | drop => exact hempty

end LeadsTo

/-! ### Finding what came in -/

theorem findEntry?_setEntry (id other : String) (resource : Resource)
    (items : List (String × Resource)) :
    findEntry? other (setEntry id resource items) =
      if id = other then some resource else findEntry? other items := by
  induction items with
  | nil => rfl
  | cons entry rest ih =>
    obtain ⟨first, old⟩ := entry
    rw [setEntry]
    by_cases hfirst : first = id
    · subst hfirst
      rw [if_pos rfl]
      unfold findEntry?
      split <;> rfl
    · rw [if_neg hfirst]
      unfold findEntry?
      rw [ih]
      by_cases hother : first = other
      · rw [if_pos hother, if_pos hother, if_neg fun hid ↦ hfirst (hother.trans hid.symm)]
      · rw [if_neg hother, if_neg hother]

/-- A resource that came in is found under its identifier, in place of any other. -/
theorem find?_add (cache : ResultCache) (resource : Resource) (id : String) :
    (cache.add resource).find? id =
      if resource.id = id then some resource else cache.find? id :=
  findEntry?_setEntry resource.id id resource cache.items

/-! ### Keys -/

/-- Every resource that is found is found under its own identifier. -/
def KeyedById (cache : ResultCache) : Prop :=
  ∀ id resource, cache.find? id = some resource → resource.id = id

namespace KeyedById

variable {cache after : ResultCache}

theorem empty : KeyedById empty :=
  fun _ _ hfound ↦ nomatch hfound

theorem add (hcache : cache.KeyedById) (resource : Resource) :
    (cache.add resource).KeyedById := by
  intro id found hfound
  rw [find?_add] at hfound
  by_cases hid : resource.id = id
  · rw [if_pos hid] at hfound
    obtain rfl := Option.some.inj hfound
    exact hid
  · rw [if_neg hid] at hfound
    exact hcache id found hfound

theorem leadsTo (hcache : cache.KeyedById) (hleads : cache.LeadsTo after) : after.KeyedById :=
  hleads.keeps .empty (fun _ resource hbefore ↦ hbefore.add resource) hcache

end KeyedById

end ResultCache

/-! ### Hooks -/

/-- A hook changes the results of its repository by the operations on results and in no other way;
besides that it may do anything. -/
def Fetch.ChangesResults (fetch : Fetch) : Prop :=
  ∀ (ids : List String) (repository : Repository),
    repository.results.LeadsTo (fetch ids repository).2.results

namespace FetchPlan

theorem leadsTo_keepFetched (operation : Session → Except RemoteError Fetched × Session)
    (repository : Repository) :
    repository.results.LeadsTo (keepFetched (repository.withSession operation)).2.results := by
  rw [Repository.withSession]
  rcases operation repository.session with ⟨error | response | hit, session⟩
  · exact .refl _
  · exact .change repository.results (.addDocument response.document)
  · exact .refl _

theorem leadsTo_fetchEach (path : String) (ids : List String) (repository : Repository) :
    repository.results.LeadsTo (fetchEach path ids repository).2.results := by
  induction ids generalizing repository with
  | nil => exact .refl _
  | cons id rest ih =>
    rw [fetchEach, Repository.withSession]
    rcases Session.get (path ++ "/" ++ id) repository.session with
      ⟨error | response | hit, session⟩
    · exact .refl _
    · refine .trans (.change repository.results (.addSingle response.document)) ?_
      exact ih (Repository.cacheSingle response.document { repository with session := session }).2
    · exact ih { repository with session := session }

/-- The usual ways to fetch change results by the operations on results only. -/
theorem fetch_changesResults (plan : FetchPlan) : Fetch.ChangesResults plan.fetch := by
  intro ids repository
  cases plan with
  | query path =>
    rw [fetch]
    exact leadsTo_keepFetched _ repository
  | address path =>
    rw [fetch]
    exact leadsTo_keepFetched _ repository
  | body path =>
    rw [fetch, Repository.withSession]
    rcases Session.post path (idsBody ids) repository.session with ⟨error | response, session⟩
    · exact .refl _
    · exact .change repository.results (.addDocument response.document)
  | oneByOne path => exact leadsTo_fetchEach path ids repository
  | nothing => exact .refl _
  | failing cause => exact .refl _

end FetchPlan

end ResourceLookup
