import ResourceLookup.Proofs.GuardedLookup
import ResourceLookup.Proofs.LookupIds
import ResourceLookup.Proofs.ResultKeys

/-!
# Lookups of many resources

A lookup asks for identifiers, of which some are blank, repeated, or there already. It fetches at
most once, and then exactly what is asked for and not there (`Repository.findByIds_batch`). What it
answers is what is there afterwards of all that is asked for: each resource once, in the order of
first occurrence, and under its own identifier (`Answers`).

That resources come under their own identifiers is due to the ways in which they come in. It holds
of every repository that has a history (`Repository.Reachable.keyedById`), where lookups may have
had any hooks that keep to the operations on results.
-/

set_option autoImplicit false
set_option relaxedAutoImplicit false

namespace ResourceLookup

/-- Resources answer a lookup: they are those of the results whose identifiers are asked for, each
once, in the order in which the identifiers occur first, and each is kept under its own. -/
structure Answers (asked : List String) (results : ResultCache) (found : List Resource) : Prop where
  listed : ListsFirst asked (fun id ↦ results.contains id = true) (found.map Resource.id)
  kept : ∀ resource ∈ found, results.find? resource.id = some resource

namespace Repository

/-- A repository with a history: its client may have worked, documents came in, results were
dropped, and lookups were made with hooks that keep to the operations on results. -/
inductive Reachable : Repository → Prop where
  | start (session : Session) : Reachable (start session)
  | working {repository : Repository} (session : Session) (hbefore : Reachable repository) :
      Reachable { repository with session := session }
  | cacheDocument {repository : Repository} (document : Document)
      (hbefore : Reachable repository) : Reachable (repository.cacheDocument document).2
  | cacheSingle {repository : Repository} (document : Document) (hbefore : Reachable repository) :
      Reachable (repository.cacheSingle document).2
  | reset {repository : Repository} (hbefore : Reachable repository) : Reachable repository.reset
  | findByIds {repository : Repository} {fetch : Fetch} (hfetch : fetch.ChangesResults)
      (ids : List String) (hbefore : Reachable repository) :
      Reachable (repository.findByIds fetch ids).2
  | findById {repository : Repository} {fetch : Fetch} (hfetch : fetch.ChangesResults)
      (id : String) (hbefore : Reachable repository) :
      Reachable (repository.findById fetch id).2
  | findByIdsGuarded {repository : Repository} {fetch : Fetch} {σ : Type}
      (hfetch : fetch.ChangesResults) (cache : Option FailureCache) (store : FailureStore σ)
      (wall : WallClock) (lookupType : String) (ids : List String) (state : σ)
      (hbefore : Reachable repository) :
      Reachable (repository.findByIdsGuarded cache store wall fetch lookupType ids state).2.1

variable {repository : Repository} {fetch : Fetch}

/-! ### The results behind a lookup -/

/-- The repository that a hook gets: the fetch is reported and noted. -/
def fetching (wanted : List String) (repository : Repository) : Repository :=
  (repository.report .fetchingUncached).record (.fetched wanted)

/-- The end of a lookup with what its hook brought. -/
def concluded (requested : List String) :
    Except RemoteError Unit × Repository → Except RemoteError (List Resource) × Repository
  | (.error error, after) => ((.error (wrapFailure error after).1), (wrapFailure error after).2)
  | (.ok (), after) => (.ok (after.present requested), after)

theorem concluded_results (requested : List String)
    (brought : Except RemoteError Unit × Repository) :
    (concluded requested brought).2.results = brought.2.results := by
  rcases brought with ⟨error | done, after⟩
  · cases error <;> rfl
  · rfl

theorem findByIds_of_nothing_missing {ids : List String}
    (hpresent : ∀ id ∈ normalizeIds ids, repository.results.contains id = true) :
    repository.findByIds fetch ids = (.ok (repository.present (normalizeIds ids)), repository) := by
  rw [findByIds, if_pos (missing_isEmpty_iff.mpr hpresent)]

theorem findByIds_of_missing {ids : List String}
    (hmissing : ∃ id ∈ normalizeIds ids, repository.results.contains id = false) :
    repository.findByIds fetch ids =
      concluded (normalizeIds ids) (fetch (repository.missing (normalizeIds ids))
        (repository.fetching (repository.missing (normalizeIds ids)))) := by
  rw [findByIds, missing_isEmpty_of_missing hmissing]
  simp only [Bool.false_eq_true, if_false]
  rcases hbrought : fetch (repository.missing (normalizeIds ids))
    (repository.fetching (repository.missing (normalizeIds ids))) with ⟨error | done, after⟩ <;>
  · rw [fetching] at hbrought
    rw [hbrought]
    rfl

/-- A lookup changes results like its hook. -/
theorem leadsTo_findByIds (hfetch : fetch.ChangesResults) (ids : List String)
    (repository : Repository) :
    repository.results.LeadsTo (repository.findByIds fetch ids).2.results := by
  rcases repository.present_or_missing (normalizeIds ids) with hpresent | hmissing
  · rw [findByIds_of_nothing_missing hpresent]
    exact .refl _
  · rw [findByIds_of_missing hmissing, concluded_results]
    exact hfetch _ (repository.fetching _)

theorem findById_repository (id : String) (repository : Repository) :
    (repository.findById fetch id).2 = (repository.findByIds fetch [id]).2 := by
  rw [findById]
  rcases repository.findByIds fetch [id] with ⟨error | found, after⟩ <;> rfl

/-- A guarded lookup changes results like its hook. -/
theorem leadsTo_findByIdsGuarded {σ : Type} (hfetch : fetch.ChangesResults)
    (cache : Option FailureCache) (store : FailureStore σ) (wall : WallClock) (lookupType : String)
    (ids : List String) (state : σ) (repository : Repository) :
    repository.results.LeadsTo
      (repository.findByIdsGuarded cache store wall fetch lookupType ids state).2.1.results := by
  rcases repository.findByIdsGuarded_results cache store wall fetch lookupType ids state with
    hkept | ⟨events, hlooked⟩
  · rw [hkept]
    exact .refl _
  · rw [hlooked]
    exact leadsTo_findByIds hfetch ids (repository.reportAll events)

/-- Every history has led to the results by the operations on results. -/
theorem Reachable.leadsTo (hreachable : repository.Reachable) :
    ResultCache.empty.LeadsTo repository.results := by
  induction hreachable with
  | start session => exact .refl _
  | working session hbefore ih => exact ih
  | cacheDocument document hbefore ih => exact ih.trans (.change _ (.addDocument document))
  | cacheSingle document hbefore ih => exact ih.trans (.change _ (.addSingle document))
  | reset hbefore ih => exact .refl _
  | findByIds hfetch ids hbefore ih => exact ih.trans (leadsTo_findByIds hfetch ids _)
  | findById hfetch id hbefore ih =>
    rw [findById_repository]
    exact ih.trans (leadsTo_findByIds hfetch [id] _)
  | findByIdsGuarded hfetch cache store wall lookupType ids state hbefore ih =>
    exact ih.trans (leadsTo_findByIdsGuarded hfetch cache store wall lookupType ids state _)

/-- Every history leaves resources under their own identifiers. -/
theorem Reachable.keyedById (hreachable : repository.Reachable) : repository.results.KeyedById :=
  .leadsTo .empty hreachable.leadsTo

/-! ### What is asked for, missing and answered -/

/-- What is missing is all that is asked for and not there, each once in the order of first
occurrence. -/
theorem listsFirst_missing (ids : List String) (repository : Repository) :
    ListsFirst (nonblankIds ids) (fun id ↦ repository.results.contains id = false)
      (repository.missing (normalizeIds ids)) :=
  ((listsFirst_normalizeIds ids).filter _).congr fun id _ ↦ by simp

/-- What is asked for is all there exactly if all normalized identifiers are. -/
theorem forall_normalizeIds {ids : List String} {property : String → Prop} :
    (∀ id ∈ normalizeIds ids, property id) ↔ ∀ id ∈ nonblankIds ids, property id :=
  forall_congr' fun id ↦ by rw [(listsFirst_normalizeIds ids).mem_iff, and_true]

/-- The identifiers of the resources present are those of the list that are there. -/
theorem map_id_present (hkeyed : repository.results.KeyedById) (ids : List String) :
    (repository.present ids).map Resource.id = ids.filter repository.results.contains := by
  rw [present]
  induction ids with
  | nil => rfl
  | cons id rest ih =>
    cases hfound : repository.results.find? id with
    | none =>
      have habsent : repository.results.contains id = false := by
        rw [ResultCache.contains, hfound]
        rfl
      rw [List.filterMap_cons_none hfound, List.filter_cons_of_neg (by simp [habsent]), ih]
    | some resource =>
      have hthere : repository.results.contains id = true := by
        rw [ResultCache.contains, hfound]
        rfl
      rw [List.filterMap_cons_some hfound, List.filter_cons_of_pos hthere, List.map_cons, ih,
        hkeyed id resource hfound]

/-- The resources present are an answer. -/
theorem answers_present (hkeyed : repository.results.KeyedById) (ids : List String) :
    Answers (nonblankIds ids) repository.results (repository.present (normalizeIds ids)) where
  listed := by
    rw [map_id_present hkeyed]
    exact ((listsFirst_normalizeIds ids).filter _).congr fun id _ ↦ by simp
  kept resource hresource := by
    obtain ⟨id, -, hfound⟩ := List.mem_filterMap.mp hresource
    rw [hkeyed id resource hfound]
    exact hfound

/-! ### The lookup -/

/-- A lookup fetches at most once. Assumes: a repository with a history, and a hook that keeps to
the operations on results. If all that is asked for is there, nothing is fetched and nothing
changes. Otherwise the hook is called once, with exactly what is asked for and not there, each once
in the order of first occurrence. A failure of the hook is the failure of the lookup, except that a
failure of the caller's own code becomes a synthetic one of the service with the status 502. Without
a failure the answer is what is there then. -/
theorem findByIds_batch (hreachable : repository.Reachable) (hfetch : fetch.ChangesResults)
    (ids : List String) :
    let asked := nonblankIds ids
    ((∀ id ∈ asked, repository.results.contains id = true) →
      ∃ found, repository.findByIds fetch ids = (.ok found, repository) ∧
        Answers asked repository.results found) ∧
    ((∃ id ∈ asked, repository.results.contains id = false) →
      let wanted := repository.missing (normalizeIds ids)
      ListsFirst asked (fun id ↦ repository.results.contains id = false) wanted ∧
        match fetch wanted (repository.fetching wanted) with
        | (.error (.other cause), after) =>
          ∃ failure : ServiceError, failure.status = .badGateway ∧ failure.synthetic = true ∧
            failure.source = some cause ∧
            repository.findByIds fetch ids =
              (.error (.service failure), after.report .lookupFailed)
        | (.error error, after) => repository.findByIds fetch ids = (.error error, after)
        | (.ok (), after) =>
          ∃ found, repository.findByIds fetch ids = (.ok found, after) ∧
            Answers asked after.results found) := by
  intro asked
  refine ⟨fun hpresent ↦ ?_, fun hmissing ↦ ?_⟩
  · exact ⟨_, findByIds_of_nothing_missing (forall_normalizeIds.mpr hpresent),
      answers_present hreachable.keyedById ids⟩
  · have hnormal : ∃ id ∈ normalizeIds ids, repository.results.contains id = false := by
      obtain ⟨id, hid, habsent⟩ := hmissing
      exact ⟨id, ((listsFirst_normalizeIds ids).mem_iff id).mpr ⟨hid, trivial⟩, habsent⟩
    refine ⟨listsFirst_missing ids repository, ?_⟩
    have hleads := hfetch (repository.missing (normalizeIds ids))
      (repository.fetching (repository.missing (normalizeIds ids)))
    rw [findByIds_of_missing hnormal]
    generalize fetch (repository.missing (normalizeIds ids))
      (repository.fetching (repository.missing (normalizeIds ids))) = brought at hleads ⊢
    rcases brought with ⟨error | done, after⟩
    · cases error with
      | other cause => exact ⟨lookupFailure after.session.client cause, rfl, rfl, rfl, rfl⟩
      | _ => rfl
    · exact ⟨_, rfl, answers_present (hreachable.keyedById.leadsTo hleads) ids⟩

/-- A client without anything to talk to. -/
def idleClient : Client where
  service := "products"
  baseUri := "https://products.example"
  settings := ClientSettings.standard
  transport := none
  tokenProvider := TokenProvider.inTurn (.ok ⟨"tok-1"⟩) []
  resolvers := ⟨[]⟩
  jitter := JitterSource.none
  context := RequestContext.empty
  patterns := []
  token := none
  headers := none

/-- A repository with one product. -/
def stockedRepository : Repository :=
  (cacheDocument { Document.empty with data := some (.one (.new "products" "2")) }
    (start (Session.start idleClient))).2

/-- A document with two products, one of them twice. -/
def delivery : Document :=
  { Document.empty with
    data := some (.many [.new "products" "9", .new "products" "4", .new "products" "9"]) }

/-- A hook that brings the same products, whatever is wanted. -/
def deliver : Fetch := fun _ repository ↦ (.ok (), (repository.cacheDocument delivery).2)

theorem findByIds_batch_delivered :
    stockedRepository.Reachable ∧ Fetch.ChangesResults deliver ∧
      stockedRepository.missing (normalizeIds [" 7", "2", "", "7 ", "9"]) = ["7", "9"] ∧
      ∃ found, (stockedRepository.findByIds deliver [" 7", "2", "", "7 ", "9"]).1 = .ok found ∧
        found.map Resource.id = ["2", "9"] := by
  have hreachable : stockedRepository.Reachable := .cacheDocument _ (.start _)
  have hdeliver : Fetch.ChangesResults deliver := fun _ repository ↦
    .change repository.results (.addDocument delivery)
  obtain ⟨-, found, hfound, -⟩ :=
    (findByIds_batch hreachable hdeliver [" 7", "2", "", "7 ", "9"]).2 ⟨"7", by decide, by decide⟩
  refine ⟨hreachable, hdeliver, by decide, found, congrArg Prod.fst hfound, ?_⟩
  obtain rfl := Except.ok.inj (congrArg Prod.fst hfound)
  decide

end Repository

end ResourceLookup
