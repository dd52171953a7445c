import ResourceLookup.Proofs.BatchLookup
import ResourceLookup.Proofs.Lifetimes
import ResourceLookup.Repository.Fleet

/-!
# A lookup of one repository among others

A guarded lookup of a member of a fleet goes one of four ways (`Fleet.FindCourse`): all is there, it
is refused with an entry of the store (`Fleet.refusal?`), it is made, or it is made and its failure
is noted. What it means to the others is what it does to the store, and that is told by the slots.
Under other keys nothing changes (`Fleet.slotAt?_find_of_ne`). Under its own key a failure of the
service leaves its slot (`Fleet.slotAt?_find_of_service`), no other end puts a slot where there was
none (`Fleet.slotAt?_find_of_absent`), and a lookup that is refused leaves all as it is
(`Fleet.find_of_refusal`).
-/

set_option autoImplicit false
set_option relaxedAutoImplicit false

namespace ResourceLookup

namespace Repository

variable {repository : Repository}

theorem concluded_now (requested : List String) (brought : Except RemoteError Unit × Repository) :
    (concluded requested brought).2.session.now = brought.2.session.now := by
  rcases brought with ⟨error | done, after⟩
  · cases error <;> rfl
  · rfl

/-- A lookup does not turn the clock back, if its hook does not. -/
theorem now_le_findByIds (hook : SteadyFetch) (ids : List String) (repository : Repository) :
    repository.session.now ≤ (repository.findByIds hook.fetch ids).2.session.now := by
  rcases repository.present_or_missing (normalizeIds ids) with hpresent | hmissing
  · have hkept : repository.findByIds hook.fetch ids = (_, repository) :=
      findByIds_of_nothing_missing hpresent
    exact Nat.le_of_eq (congrArg (·.2.session.now) hkept).symm
  · rw [findByIds_of_missing hmissing, concluded_now]
    exact hook.steady _ (repository.fetching (repository.missing (normalizeIds ids)))

end Repository

namespace Fleet

variable {ι : Type} {fleet : Fleet ι} {failures : FailureCache} {member : ι}
  {hook : SteadyFetch} {lookup : Lookup} {slot : Slot}

/-- The entry with which a lookup is refused. -/
def refusal? (fleet : Fleet ι) (failures : FailureCache) (lookup : Lookup) :
    Option FailureEntry :=
  liveEntry? (.ok (fleet.store.get fleet.now (lookup.key failures)).1) (fleet.wall fleet.now)

theorem refusal?_of_absent (habsent : fleet.store.slotAt? (lookup.key failures) = none) :
    fleet.refusal? failures lookup = none := by
  rw [refusal?, MemoryStore.get_of_absent fleet.now habsent]
  rfl

theorem refusal?_of_live (hslot : fleet.store.slotAt? (lookup.key failures) = some slot)
    (hlive : slot.isLiveAt fleet.now = true)
    (hexpired : slot.entry.isExpiredAt (fleet.wall fleet.now) = false) :
    fleet.refusal? failures lookup = some slot.entry := by
  rw [refusal?, MemoryStore.get_of_live hslot hlive]
  exact liveEntry?_eq_some_iff.mpr ⟨rfl, hexpired⟩

/-- The ways in which a guarded lookup goes: all is there, it is refused, it is made, or it is made
and its failure is noted. -/
inductive FindCourse (fleet : Fleet ι) (failures : FailureCache) (member : ι) (hook : SteadyFetch)
    (lookup : Lookup) : Except RemoteError (List Resource) × Repository × MemoryStore → Prop where
  | stocked (found : List Resource)
      (hpresent : ∀ id ∈ lookup.requested, (fleet.repository member).results.contains id = true)
      (hlooked : (fleet.repository member).findByIds hook.fetch lookup.ids =
        (.ok found, fleet.repository member)) :
      FindCourse fleet failures member hook lookup
        (.ok found, fleet.repository member, fleet.store)
  | refused (entry : FailureEntry) (hrefusal : fleet.refusal? failures lookup = some entry) :
      FindCourse fleet failures member hook lookup
        (.error (.cachedFailure ⟨entry⟩), (fleet.repository member).report .failureHit, fleet.store)
  | made (result : Except RemoteError (List Resource)) (after : Repository)
      (hrefusal : fleet.refusal? failures lookup = none)
      (hlooked : (fleet.repository member).findByIds hook.fetch lookup.ids = (result, after))
      (hresult : ∀ error, result ≠ .error (.service error)) :
      FindCourse fleet failures member hook lookup
        (result, after, (fleet.store.get fleet.now (lookup.key failures)).2)
  | noted (error : ServiceError) (after : Repository) (events : List Event)
      (hrefusal : fleet.refusal? failures lookup = none)
      (hlooked : (fleet.repository member).findByIds hook.fetch lookup.ids =
        (.error (.service error), after)) :
      FindCourse fleet failures member hook lookup
        (.error (.service error), after.reportAll events,
          (fleet.store.get fleet.now (lookup.key failures)).2.insertSlot (lookup.key failures)
            (failures.slotOf (after.moment fleet.wall) lookup.lookupType error.report
              lookup.requested))

/-- A lookup that is not refused is made, and its failure is noted. -/
theorem findCourse_of_not_refused (hfailures : (fleet.members member).failures = failures)
    (henabled : failures.policy.enabled = true)
    (hmissing : ∃ id ∈ lookup.requested, (fleet.repository member).results.contains id = false)
    (hrefusal : fleet.refusal? failures lookup = none) :
    fleet.FindCourse failures member hook lookup (fleet.find member hook lookup) := by
  rcases hlooked : (fleet.repository member).findByIds hook.fetch lookup.ids with ⟨result, after⟩
  have hasked : MemoryStore.interface.get ((fleet.repository member).moment fleet.wall).monotonic
      (failures.key lookup.lookupType (normalizeIds lookup.ids)) fleet.store =
        (.ok (fleet.store.get fleet.now (lookup.key failures)).1,
          (fleet.store.get fleet.now (lookup.key failures)).2) := rfl
  have hreported : ((fleet.repository member).reportAll []).findByIds hook.fetch lookup.ids =
      (result, after) := by
    rw [Repository.reportAll_nil, hlooked]
  rw [find, hfailures, Repository.findByIdsGuarded_of_missing hmissing,
    Repository.findGuarded_of_not_live henabled hasked hrefusal hreported]
  by_cases hservice : ∃ error, result = .error (.service error)
  · obtain ⟨error, rfl⟩ := hservice
    obtain ⟨events, hnoted⟩ := Repository.remember_of_service error (normalizeIds lookup.ids)
      henabled
    rw [hnoted]
    exact .noted error after events hrefusal hlooked
  · have hresult : ∀ error, result ≠ .error (.service error) :=
      fun error hresult ↦ hservice ⟨error, hresult⟩
    rw [Repository.remember_of_not_service (normalizeIds lookup.ids) hresult]
    exact .made result after hrefusal hlooked hresult

/-- A lookup for which the store has a live entry is refused, and the store stays as it is. -/
theorem findCourse_of_refused {entry : FailureEntry}
    (hfailures : (fleet.members member).failures = failures)
    (henabled : failures.policy.enabled = true)
    (hmissing : ∃ id ∈ lookup.requested, (fleet.repository member).results.contains id = false)
    (hrefusal : fleet.refusal? failures lookup = some entry) :
    fleet.FindCourse failures member hook lookup (fleet.find member hook lookup) := by
  have hstore : (fleet.store.get fleet.now (lookup.key failures)).2 = fleet.store :=
    MemoryStore.get_of_some (Except.ok.inj (liveEntry?_eq_some_iff.mp hrefusal).1)
  have hlive : liveEntry? (MemoryStore.interface.get
      ((fleet.repository member).moment fleet.wall).monotonic
      (failures.key lookup.lookupType (normalizeIds lookup.ids)) fleet.store).1
        ((fleet.repository member).moment fleet.wall).wall = some entry := hrefusal
  have hrefused : fleet.find member hook lookup = (.error (.cachedFailure ⟨entry⟩),
      (fleet.repository member).report .failureHit,
      (fleet.store.get fleet.now (lookup.key failures)).2) := by
    rw [find, hfailures, Repository.findByIdsGuarded_of_missing hmissing,
      Repository.findGuarded_of_live henabled hlive]
    rfl
  rw [hrefused, hstore]
  exact .refused entry hrefusal

/-- A lookup goes one of the four ways. -/
theorem findCourse (hook : SteadyFetch) (lookup : Lookup)
    (hfailures : (fleet.members member).failures = failures)
    (henabled : failures.policy.enabled = true) :
    fleet.FindCourse failures member hook lookup (fleet.find member hook lookup) := by
  rcases (fleet.repository member).present_or_missing lookup.requested with hpresent | hmissing
  · have hlooked : (fleet.repository member).findByIds hook.fetch lookup.ids = (.ok _, _) :=
      Repository.findByIds_of_nothing_missing hpresent
    rw [find, Repository.findByIdsGuarded_of_nothing_missing _ hpresent, hlooked]
    exact .stocked _ hpresent hlooked
  · cases hrefusal : fleet.refusal? failures lookup with
    | none => exact findCourse_of_not_refused hfailures henabled hmissing hrefusal
    | some entry => exact findCourse_of_refused hfailures henabled hmissing hrefusal

section Course

variable (hfailures : (fleet.members member).failures = failures)
  (henabled : failures.policy.enabled = true)

include hfailures henabled

/-- A lookup does not turn the clock back. -/
theorem now_le_find (hook : SteadyFetch) (lookup : Lookup) :
    fleet.now ≤ (fleet.find member hook lookup).2.1.session.now := by
  have hlooked : fleet.now ≤ _ :=
    Repository.now_le_findByIds hook lookup.ids (fleet.repository member)
  -- The outcome becomes a variable, since the course cannot be split at the lookup itself.
  have hcourse := findCourse hook lookup hfailures henabled
  generalize fleet.find member hook lookup = outcome at hcourse ⊢
  cases hcourse with
  | stocked found hpresent hmade => exact Nat.le_refl fleet.now
  | refused entry hrefusal => exact Nat.le_refl fleet.now
  | made result after hrefusal hmade hresult =>
    rw [hmade] at hlooked
    exact hlooked
  | noted error after events hrefusal hmade =>
    rw [hmade] at hlooked
    exact hlooked

/-- A lookup changes nothing under the keys of others. -/
theorem slotAt?_find_of_ne (hook : SteadyFetch) {key : String} (hkey : lookup.key failures ≠ key) :
    (fleet.find member hook lookup).2.2.slotAt? key = fleet.store.slotAt? key := by
  have hcourse := findCourse hook lookup hfailures henabled
  generalize fleet.find member hook lookup = outcome at hcourse ⊢
  cases hcourse with
  | stocked found hpresent hmade => rfl
  | refused entry hrefusal => rfl
  | made result after hrefusal hmade hresult =>
    exact MemoryStore.slotAt?_get_of_ne fleet.now fleet.store hkey
  | noted error after events hrefusal hmade =>
    rw [MemoryStore.slotAt?_insertSlot, if_neg hkey]
    exact MemoryStore.slotAt?_get_of_ne fleet.now fleet.store hkey

/-- A lookup that ends in a failure of the service leaves the slot of that failure. -/
theorem slotAt?_find_of_service {error : ServiceError}
    (hresult : (fleet.find member hook lookup).1 = .error (.service error)) :
    (fleet.find member hook lookup).2.2.slotAt? (lookup.key failures) =
      some (failures.slotOf ((fleet.find member hook lookup).2.1.moment fleet.wall)
        lookup.lookupType error.report lookup.requested) := by
  have hcourse := findCourse hook lookup hfailures henabled
  generalize fleet.find member hook lookup = outcome at hcourse hresult ⊢
  cases hcourse with
  | stocked found hpresent hmade => exact nomatch hresult
  | refused entry hrefusal => exact nomatch hresult
  | made result after hrefusal hmade hother => exact absurd hresult (hother error)
  | noted noted after events hrefusal hmade =>
    obtain rfl : noted = error := RemoteError.service.inj (Except.error.inj hresult)
    rw [MemoryStore.slotAt?_insertSlot, if_pos rfl]
    rfl

/-- A lookup that ends in any other way leaves no slot where there was none. -/
theorem slotAt?_find_of_absent (habsent : fleet.store.slotAt? (lookup.key failures) = none)
    (hresult : ∀ error, (fleet.find member hook lookup).1 ≠ .error (.service error)) :
    (fleet.find member hook lookup).2.2.slotAt? (lookup.key failures) = none := by
  have hcourse := findCourse hook lookup hfailures henabled
  generalize fleet.find member hook lookup = outcome at hcourse hresult ⊢
  cases hcourse with
  | stocked found hpresent hmade => exact habsent
  | refused entry hrefusal => exact habsent
  | made result after hrefusal hmade hother =>
    rw [MemoryStore.get_of_absent fleet.now habsent]
    exact habsent
  | noted error after events hrefusal hmade => exact absurd rfl (hresult error)

/-- A lookup that is to be refused leaves the store as it is: it is refused, unless all is there. -/
theorem find_of_refusal {entry : FailureEntry} (hook : SteadyFetch)
    (hrefusal : fleet.refusal? failures lookup = some entry) :
    (fleet.find member hook lookup).2.2 = fleet.store ∧
      ((∃ id ∈ lookup.requested, (fleet.repository member).results.contains id = false) →
        fleet.find member hook lookup = (.error (.cachedFailure ⟨entry⟩),
          (fleet.repository member).report .failureHit, fleet.store)) := by
  have hcourse := findCourse hook lookup hfailures henabled
  generalize fleet.find member hook lookup = outcome at hcourse ⊢
  cases hcourse with
  | stocked found hpresent hmade =>
    refine ⟨rfl, fun ⟨id, hid, habsent⟩ ↦ ?_⟩
    exact nomatch (hpresent id hid).symm.trans habsent
  | refused other hother =>
    obtain rfl : other = entry := Option.some.inj (hother.symm.trans hrefusal)
    exact ⟨rfl, fun _ ↦ rfl⟩
  | made result after hnone hmade hresult => exact nomatch hnone.symm.trans hrefusal
  | noted error after events hnone hmade => exact nomatch hnone.symm.trans hrefusal

/-- A lookup that is not refused is made as it is, and some events are reported behind it. -/
theorem find_of_not_refused (hook : SteadyFetch)
    (hrefusal : fleet.refusal? failures lookup = none) :
    (fleet.find member hook lookup).1 =
        ((fleet.repository member).findByIds hook.fetch lookup.ids).1 ∧
      ∃ events, (fleet.find member hook lookup).2.1 =
        ((fleet.repository member).findByIds hook.fetch lookup.ids).2.reportAll events := by
  have hcourse := findCourse hook lookup hfailures henabled
  generalize fleet.find member hook lookup = outcome at hcourse ⊢
  cases hcourse with
  | stocked found hpresent hmade =>
    rw [hmade]
    exact ⟨rfl, [], (Repository.reportAll_nil _).symm⟩
  | refused entry hsome => exact nomatch hsome.symm.trans hrefusal
  | made result after hnone hmade hresult =>
    rw [hmade]
    exact ⟨rfl, [], (Repository.reportAll_nil after).symm⟩
  | noted error after events hnone hmade =>
    rw [hmade]
    exact ⟨rfl, events, rfl⟩

/-- Forgetting a lookup takes away the slot under its key. -/
theorem slotAt?_clear (lookup : Lookup) (key : String) :
    (fleet.clear member lookup).2.slotAt? key =
      if lookup.key failures = key then none else fleet.store.slotAt? key := by
  rw [← MemoryStore.slotAt?_removeSlot, clear, hfailures, Repository.clearCachedFailure]
  simp only [FailureCache.clear_state_of_enabled henabled]
  rfl

end Course

end Fleet

end ResourceLookup
