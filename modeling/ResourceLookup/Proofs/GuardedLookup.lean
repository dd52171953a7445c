import ResourceLookup.Proofs.FailureCalls
import ResourceLookup.Proofs.Reporting

/-!
# Guarded lookups over any store

A guarded lookup is a lookup with one question to the store of failures before it and at most one
note in the store behind it (`Repository.findByIdsGuarded_guards`). Nothing is assumed of the store:
it may answer as it likes, and any of its operations may fail.

Without a failure cache that is switched on, or with all resources there already, the store is left
alone. Otherwise the store is asked for the entry under the key of the lookup. If it answers with
one whose time is not over, nothing else happens. In all other cases the lookup is made, and only a
failure of the remote service is noted behind it.

A store that could not be read is reported before the lookup, so that the lookup starts from a
repository with one more report. That makes no difference to a hook that ignores reports, as the
usual ones do (`FetchPlan.fetch_ignoresReports`).
-/

set_option autoImplicit false
set_option relaxedAutoImplicit false

namespace ResourceLookup

namespace Repository

variable {repository : Repository}

@[simp] theorem reportAll_nil (repository : Repository) : repository.reportAll [] = repository := by
  rw [reportAll, Session.reportAll_nil]

/-- Nothing is missing exactly if all resources are there. -/
theorem missing_isEmpty_iff {ids : List String} :
    (repository.missing ids).isEmpty = true ↔
      ∀ id ∈ ids, repository.results.contains id = true := by
  simp [missing]

/-- All is there, or something is not. -/
theorem present_or_missing (repository : Repository) (ids : List String) :
    (∀ id ∈ ids, repository.results.contains id = true) ∨
      ∃ id ∈ ids, repository.results.contains id = false := by
  by_cases hpresent : ∀ id ∈ ids, repository.results.contains id = true
  · exact .inl hpresent
  · exact .inr (by simpa using hpresent)

/-- Something is missing if a resource is not there. -/
theorem missing_isEmpty_of_missing {ids : List String}
    (hmissing : ∃ id ∈ ids, repository.results.contains id = false) :
    (repository.missing ids).isEmpty = false := by
  obtain ⟨id, hid, habsent⟩ := hmissing
  refine Bool.eq_false_iff.mpr fun hempty ↦ ?_
  exact absurd (missing_isEmpty_iff.mp hempty id hid) (by rw [habsent]; exact Bool.false_ne_true)

section Guarding

variable {σ : Type} {failures : FailureCache} {store : FailureStore σ} {wall : WallClock}
  {fetch : Fetch} {lookupType : String} {ids : List String} {state : σ}

/-! ### Noting failures -/

/-- The failure of the remote service is noted, whatever the store makes of it. -/
theorem remember_of_service (error : ServiceError) (requested : List String)
    (henabled : failures.policy.enabled = true) :
    ∃ events, remember failures store wall lookupType requested (.error (.service error))
        repository state =
      (repository.reportAll events,
        (store.put (repository.moment wall).monotonic (failures.key lookupType requested)
          (failures.entryOf (repository.moment wall) lookupType error.report requested)
          (failures.policy.ttlFor (classify error.report)) state).2) := by
  obtain ⟨event, hrecord⟩ : ∃ event, failures.record store (repository.moment wall) lookupType
      error.report requested state = ⟨_, [event], _⟩ :=
    FailureCache.record_of_enabled error.report henabled
  rw [remember, hrecord]
  exact ⟨[event], rfl⟩

/-- No other result is noted. -/
theorem remember_of_not_service {result : Except RemoteError (List Resource)}
    (requested : List String) (hresult : ∀ error, result ≠ .error (.service error)) :
    remember failures store wall lookupType requested result repository state =
      (repository, state) := by
  unfold remember
  split
  · next error => exact absurd rfl (hresult error)
  · rfl

/-- A cache that is switched off notes nothing. -/
theorem remember_of_disabled (result : Except RemoteError (List Resource))
    (requested : List String) (hdisabled : failures.policy.enabled = false) :
    remember failures store wall lookupType requested result repository state =
      (repository, state) := by
  unfold remember
  split
  · next error =>
    rw [FailureCache.record_of_disabled _ hdisabled]
    exact congrArg (·, state) (reportAll_nil repository)
  · rfl

/-- Noting a failure does nothing to a repository but report. -/
theorem remember_repository (result : Except RemoteError (List Resource))
    (requested : List String) :
    ∃ events, (remember failures store wall lookupType requested result repository state).1 =
      repository.reportAll events := by
  unfold remember
  split
  · exact ⟨_, rfl⟩
  · exact ⟨[], (reportAll_nil repository).symm⟩

theorem remember_results (result : Except RemoteError (List Resource)) (requested : List String) :
    (remember failures store wall lookupType requested result repository state).1.results =
      repository.results := by
  unfold remember
  split <;> rfl

/-! ### Asking the store -/

/-- Behind a cache that is switched off a lookup is made as it is. -/
theorem findGuarded_of_disabled (hdisabled : failures.policy.enabled = false) :
    findGuarded failures store wall fetch lookupType ids repository state =
      ((repository.findByIds fetch ids).1, (repository.findByIds fetch ids).2, state) := by
  rw [findGuarded, FailureCache.check_of_disabled hdisabled]
  simp only [reportAll_nil, remember_of_disabled _ _ hdisabled]

/-- A live entry in the store ends the lookup at once. -/
theorem findGuarded_of_live {entry : FailureEntry} (henabled : failures.policy.enabled = true)
    (hlive : liveEntry? (store.get (repository.moment wall).monotonic
      (failures.key lookupType (normalizeIds ids)) state).1 (repository.moment wall).wall =
        some entry) :
    findGuarded failures store wall fetch lookupType ids repository state =
      (.error (.cachedFailure ⟨entry⟩), repository.report .failureHit,
        (store.get (repository.moment wall).monotonic
          (failures.key lookupType (normalizeIds ids)) state).2) := by
  rw [findGuarded, FailureCache.check_of_live henabled hlive]
  rfl

/-- Without a live entry the lookup is made, and its result is passed on and may be noted. -/
theorem findGuarded_of_not_live {asked : StoreAnswer × σ}
    {looked : Except RemoteError (List Resource) × Repository}
    (henabled : failures.policy.enabled = true)
    (hasked : store.get (repository.moment wall).monotonic
      (failures.key lookupType (normalizeIds ids)) state = asked)
    (hlive : liveEntry? asked.1 (repository.moment wall).wall = none)
    (hlooked : (repository.reportAll (readingEvents asked.1)).findByIds fetch ids = looked) :
    findGuarded failures store wall fetch lookupType ids repository state =
      (looked.1, remember failures store wall lookupType (normalizeIds ids) looked.1 looked.2
        asked.2) := by
  subst hasked hlooked
  rw [findGuarded, FailureCache.check_of_not_live henabled hlive]

/-! ### Guarding or not -/

/-- A lookup without anything to fetch is not guarded. -/
theorem findByIdsGuarded_of_nothing_missing (cache : Option FailureCache)
    (hpresent : ∀ id ∈ normalizeIds ids, repository.results.contains id = true) :
    findByIdsGuarded cache store wall fetch lookupType ids repository state =
      ((repository.findByIds fetch ids).1, (repository.findByIds fetch ids).2, state) := by
  cases cache with
  | none => rfl
  | some failures =>
    rw [findByIdsGuarded, if_pos (missing_isEmpty_iff.mpr hpresent)]

/-- A lookup with something to fetch is guarded by the cache. -/
theorem findByIdsGuarded_of_missing
    (hmissing : ∃ id ∈ normalizeIds ids, repository.results.contains id = false) :
    findByIdsGuarded (some failures) store wall fetch lookupType ids repository state =
      findGuarded failures store wall fetch lookupType ids repository state := by
  rw [findByIdsGuarded, missing_isEmpty_of_missing hmissing]
  rfl

end Guarding

/-- A guarded lookup leaves the results as they are, or as a lookup after some reports leaves
them. -/
theorem findByIdsGuarded_results {σ : Type} (cache : Option FailureCache) (store : FailureStore σ)
    (wall : WallClock) (fetch : Fetch) (lookupType : String) (ids : List String)
    (repository : Repository) (state : σ) :
    let guarded := repository.findByIdsGuarded cache store wall fetch lookupType ids state
    guarded.2.1.results = repository.results ∨
      ∃ events, guarded.2.1.results =
        ((repository.reportAll events).findByIds fetch ids).2.results := by
  have hplain : ∀ after : σ, ((repository.findByIds fetch ids).2, after).1.results =
      ((repository.reportAll []).findByIds fetch ids).2.results := by
    intro after
    rw [reportAll_nil]
  rcases repository.present_or_missing (normalizeIds ids) with hpresent | hmissing
  · rw [findByIdsGuarded_of_nothing_missing cache hpresent]
    exact .inr ⟨[], hplain state⟩
  · cases cache with
    | none => exact .inr ⟨[], hplain state⟩
    | some failures =>
      rw [findByIdsGuarded_of_missing hmissing]
      cases henabled : failures.policy.enabled with
      | false =>
        rw [findGuarded_of_disabled henabled]
        exact .inr ⟨[], hplain state⟩
      | true =>
        cases hlive : liveEntry? (store.get (repository.moment wall).monotonic
            (failures.key lookupType (normalizeIds ids)) state).1 (repository.moment wall).wall with
        | some entry =>
          rw [findGuarded_of_live henabled hlive]
          exact .inl rfl
        | none =>
          rw [findGuarded_of_not_live henabled rfl hlive rfl]
          exact .inr ⟨_, remember_results _ _⟩

/-- A lookup from a repository in which a failed reading was reported is the lookup itself, if
reading did not fail or the hook ignores reports. -/
theorem sameOutcome_of_reading (answer : StoreAnswer) (fetch : Fetch) (ids : List String)
    (repository : Repository) :
    ((∃ found, answer = .ok found) →
      (repository.reportAll (readingEvents answer)).findByIds fetch ids =
        repository.findByIds fetch ids) ∧
    (fetch.IgnoresReports → SameOutcome SameDoings
      ((repository.reportAll (readingEvents answer)).findByIds fetch ids)
      (repository.findByIds fetch ids)) := by
  refine ⟨?_, fun hfetch ↦ findByIds_sameDoings hfetch ids (.reportAll repository _)⟩
  rintro ⟨found, rfl⟩
  rw [readingEvents, reportAll_nil]

/-! ### Transparency -/

/-- Guarding is transparent, over any store. Without a failure cache, with one that is switched off,
or with all resources there, a guarded lookup is the lookup itself and leaves the store alone.
Otherwise the store is asked under the key of the lookup. With an entry whose time is not over the
lookup fails at once, without a fetch and without a note. With any other answer, a failure of the
store included, the lookup is made, and its result is that of the guarded one; the store is left as
it was after it was asked, except that exactly a failure of the remote service is put there under
the same key, whatever comes of that. -/
theorem findByIdsGuarded_guards {σ : Type} (cache : Option FailureCache) (store : FailureStore σ)
    (wall : WallClock) (fetch : Fetch) (lookupType : String) (ids : List String)
    (repository : Repository) (state : σ) :
    let plain := repository.findByIds fetch ids
    let guarded := repository.findByIdsGuarded cache store wall fetch lookupType ids state
    (cache = none ∨ (∃ failures, cache = some failures ∧ failures.policy.enabled = false) ∨
        (∀ id ∈ normalizeIds ids, repository.results.contains id = true) →
      guarded = (plain.1, plain.2, state)) ∧
    ∀ failures, cache = some failures → failures.policy.enabled = true →
      (∃ id ∈ normalizeIds ids, repository.results.contains id = false) →
      let moment := repository.moment wall
      let key := failures.key lookupType (normalizeIds ids)
      let asked := store.get moment.monotonic key state
      (∀ entry, asked.1 = .ok (some entry) → entry.isExpiredAt moment.wall = false →
        guarded = (.error (.cachedFailure ⟨entry⟩), repository.report .failureHit, asked.2)) ∧
      ((∀ entry, asked.1 = .ok (some entry) → entry.isExpiredAt moment.wall = true) →
        ∃ looked : Except RemoteError (List Resource) × Repository,
          ((∃ found, asked.1 = .ok found) → looked = plain) ∧
          looked = (repository.reportAll (readingEvents asked.1)).findByIds fetch ids ∧
          (fetch.IgnoresReports → SameOutcome SameDoings looked plain) ∧
          guarded.1 = looked.1 ∧ (∃ events, guarded.2.1 = looked.2.reportAll events) ∧
          ((∀ error, looked.1 ≠ .error (.service error)) → guarded.2 = (looked.2, asked.2)) ∧
          ∀ error, looked.1 = .error (.service error) →
            let later := looked.2.moment wall
            guarded.2.2 = (store.put later.monotonic key
              (failures.entryOf later lookupType error.report (normalizeIds ids))
              (failures.policy.ttlFor (classify error.report)) asked.2).2) := by
  intro plain guarded
  refine ⟨?_, fun failures hcache henabled hmissing ↦ ?_⟩
  · rintro (rfl | ⟨failures, rfl, hdisabled⟩ | hpresent)
    · rfl
    · rcases repository.present_or_missing (normalizeIds ids) with hpresent | hmissing
      · exact findByIdsGuarded_of_nothing_missing _ hpresent
      · exact (findByIdsGuarded_of_missing hmissing).trans (findGuarded_of_disabled hdisabled)
    · exact findByIdsGuarded_of_nothing_missing cache hpresent
  · subst hcache
    have hguarded : guarded =
        findGuarded failures store wall fetch lookupType ids repository state :=
      findByIdsGuarded_of_missing hmissing
    intro moment key asked
    refine ⟨fun entry hanswer hexpired ↦ ?_, fun hexpired ↦ ?_⟩
    · rw [hguarded]
      exact findGuarded_of_live henabled (liveEntry?_eq_some_iff.mpr ⟨hanswer, hexpired⟩)
    · have hlive : liveEntry? asked.1 moment.wall = none := by
        refine Option.eq_none_iff_forall_ne_some.mpr fun entry hentry ↦ ?_
        obtain ⟨hanswer, hnot⟩ := liveEntry?_eq_some_iff.mp hentry
        exact absurd (hexpired entry hanswer) (by rw [hnot]; exact Bool.false_ne_true)
      obtain ⟨hread, hignores⟩ := sameOutcome_of_reading asked.1 fetch ids repository
      refine ⟨_, hread, rfl, hignores, ?_⟩
      rw [hguarded, findGuarded_of_not_live henabled rfl hlive rfl]
      refine ⟨rfl, remember_repository _ _, fun hresult ↦ remember_of_not_service _ hresult,
        fun error herror ↦ ?_⟩
      obtain ⟨events, hnoted⟩ := remember_of_service error (normalizeIds ids) henabled
      rw [herror, hnoted]

end Repository

end ResourceLookup
