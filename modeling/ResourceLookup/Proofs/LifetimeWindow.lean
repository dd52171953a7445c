import ResourceLookup.Proofs.FailureHistory
import ResourceLookup.Proofs.LookupKeys

/-!
# How long a failure is remembered

A failure that is recorded is told by every check of the same lookup until the whole seconds of the
time set for its category have passed, and by none from then on
(`FailureHistory.check_within_lifetime`). What happens under other keys in the meantime makes no
difference, and neither do checks and purges.

A time of whole seconds is thus honoured to its end. Of any other time the fraction of a second is
lost, since the entry has whole seconds only, though its slot in the store lives on: with less than
a second nothing is remembered at all (`FailureHistory.check_of_fraction`).
-/

set_option autoImplicit false
set_option relaxedAutoImplicit false

namespace ResourceLookup

/-- A duration without a fraction of a second is its whole seconds. -/
theorem Duration.nanos_of_subsecond_eq_zero {duration : Duration}
    (hwhole : duration.subsecond = 0) : duration.nanos = duration.seconds * nanosPerSecond := by
  have hparts := Nat.div_add_mod duration.nanos nanosPerSecond
  rw [subsecond] at hwhole
  rw [seconds, Nat.mul_comm]
  omega

namespace FailureHistory

variable (before after : FailureHistory) (made now : Moment) (cache : FailureCache)
  (lookupType : String) (failure : FailureReport) (identifiers asked : List String)

/-- A check of the lookup that was recorded last depends on the whole seconds of its lifetime. -/
theorem check_of_recorded (henabled : cache.policy.enabled = true)
    (htime : KeepsTime ((before ++ (made, .record cache lookupType failure identifiers) ::
      after).map Prod.fst ++ [now]))
    (hafter : ∀ step ∈ after, step.2.writes (cache.key lookupType identifiers) = false)
    (hasked : ∀ id, id ∈ asked ↔ id ∈ identifiers) :
    (cache.check MemoryStore.interface now lookupType asked (storeAfter
      (before ++ (made, .record cache lookupType failure identifiers) :: after))).value =
      if now.monotonic < made.monotonic + cache.wholeLifetime failure then
        .error ⟨cache.entryOf made lookupType failure identifiers⟩
      else .ok () := by
  have hkey : cache.key lookupType asked = cache.key lookupType identifiers :=
    lookupKey_congr cache.repository lookupType hasked
  have hwrites : FailureCall.writes (cache.key lookupType identifiers)
      (.record cache lookupType failure identifiers) = true := by
    simp [FailureCall.writes, henabled]
  have hlatest : latestWrite? (cache.key lookupType identifiers)
      (before ++ (made, .record cache lookupType failure identifiers) :: after) =
        some (made, .record cache lookupType failure identifiers) :=
    latestWrite?_of_last before hwrites hafter
  have hiff := check_eq_error_iff henabled htime lookupType asked
  rw [hkey, hlatest] at hiff
  split
  · next hwithin => exact (hiff _).mpr ⟨_, _, _, _, _, rfl, hwithin, rfl⟩
  · next hover =>
    cases houtcome : (cache.check MemoryStore.interface now lookupType asked (storeAfter
        (before ++ (made, .record cache lookupType failure identifiers) :: after))).value with
    | ok done => rfl
    | error found =>
      obtain ⟨_, _, _, _, _, hsame, hwithin, -⟩ := (hiff found).mp houtcome
      cases hsame
      exact absurd hwithin hover

/-- A time of whole seconds is honoured in full. Assumes: a cache that is switched on, moments
between which both clocks advance alike, at dates of the calendar, and no later write under the key
of the record. If the time set for the category of a failure has no fraction of a second, every
check of the same lookup, with its identifiers in any order and number, fails with what was recorded
until the time has passed. In general it does so until the whole seconds of the time have passed,
and passes from then on. -/
theorem check_within_lifetime (henabled : cache.policy.enabled = true)
    (htime : KeepsTime ((before ++ (made, .record cache lookupType failure identifiers) ::
      after).map Prod.fst ++ [now]))
    (hafter : ∀ step ∈ after, step.2.writes (cache.key lookupType identifiers) = false)
    (hasked : ∀ id, id ∈ asked ↔ id ∈ identifiers) :
    let ttl := cache.policy.ttlFor (classify failure)
    let outcome := (cache.check MemoryStore.interface now lookupType asked (storeAfter
      (before ++ (made, .record cache lookupType failure identifiers) :: after))).value
    let remembered := Except.error
      (CachedLookupFailure.mk (cache.entryOf made lookupType failure identifiers))
    (ttl.subsecond = 0 → now.monotonic < made.monotonic + ttl.nanos → outcome = remembered) ∧
    (now.monotonic < made.monotonic + ttl.seconds * nanosPerSecond → outcome = remembered) ∧
    (made.monotonic + ttl.seconds * nanosPerSecond ≤ now.monotonic → outcome = .ok ()) := by
  intro ttl outcome remembered
  have houtcome : outcome = if now.monotonic < made.monotonic + cache.wholeLifetime failure then
      remembered else .ok () :=
    check_of_recorded before after made now cache lookupType failure identifiers asked henabled
      htime hafter hasked
  have hwithin : now.monotonic < made.monotonic + ttl.seconds * nanosPerSecond →
      outcome = remembered := by
    intro hbefore
    rw [houtcome]
    exact if_pos hbefore
  refine ⟨fun hwhole hbefore ↦ hwithin ?_, hwithin, fun hpassed ↦ ?_⟩
  · rw [← Duration.nanos_of_subsecond_eq_zero hwhole]
    exact hbefore
  · rw [houtcome]
    exact if_neg (Nat.not_lt.mpr hpassed)

/-- What the failing lookup of a product reports. -/
def productGone : FailureReport := ⟨some 404, "RemoteServiceError", "gone"⟩

/-- A cache that remembers missing resources for two seconds and other failures for half a
second. -/
def fleetingCache : FailureCache :=
  ⟨"products", ⟨true, Duration.ofMillis 500, [(.notFound, Duration.ofSeconds 2)]⟩⟩

theorem check_within_lifetime_last_nanosecond :
    KeepsTime ([0, 1, 1999999999].map newYear.later) ∧
      (fleetingCache.check MemoryStore.interface (newYear.later 1999999999) "by_id" ["7", "42", "7"]
        (storeAfter [(newYear.later 0, .record fleetingCache "by_id" productGone ["42", "7"]),
          (newYear.later 1, .purge)])).value =
        .error ⟨fleetingCache.entryOf (newYear.later 0) "by_id" productGone ["42", "7"]⟩ := by
  have htime : KeepsTime ([0, 1, 1999999999].map newYear.later) :=
    .of_later newYear (by decide) (by decide)
  have hafter : ∀ step ∈ [(newYear.later 1, FailureCall.purge)],
      step.2.writes (fleetingCache.key "by_id" ["42", "7"]) = false := by
    intro step hstep
    rw [List.mem_singleton.mp hstep]
    rfl
  have hasked : ∀ id, id ∈ ["7", "42", "7"] ↔ id ∈ ["42", "7"] := by
    intro id
    simp only [List.mem_cons, List.not_mem_nil, or_false]
    tauto
  have hwindow := check_within_lifetime [] [(newYear.later 1, .purge)] (newYear.later 0)
    (newYear.later 1999999999) fleetingCache "by_id" productGone ["42", "7"] ["7", "42", "7"] rfl
    htime hafter hasked
  exact ⟨htime, hwindow.1 (by decide) (by decide)⟩

/-- With a time of half a second a failure is forgotten at once: the check at the moment of the
record passes, though the time has not passed. -/
theorem check_of_fraction :
    ¬ (KeepsTime ([0, 0].map newYear.later) →
      (newYear.later 0).monotonic < (newYear.later 0).monotonic +
        (fleetingCache.policy.ttlFor (classify ⟨some 503, "RemoteServiceError", "down"⟩)).nanos →
      ∃ remembered, (fleetingCache.check MemoryStore.interface (newYear.later 0) "by_id" ["42"]
        (storeAfter [(newYear.later 0, .record fleetingCache "by_id"
          ⟨some 503, "RemoteServiceError", "down"⟩ ["42"])])).value = .error remembered) := by
  have htime : KeepsTime ([0, 0].map newYear.later) := .of_later newYear (by decide) (by decide)
  intro hfails
  obtain ⟨remembered, hremembered⟩ := hfails htime (by decide)
  have hpasses := check_of_recorded [] [] (newYear.later 0) (newYear.later 0) fleetingCache "by_id"
    ⟨some 503, "RemoteServiceError", "down"⟩ ["42"] ["42"] rfl htime nofun fun _ ↦ Iff.rfl
  rw [if_neg (by decide)] at hpasses
  exact nomatch hpasses.symm.trans hremembered

end FailureHistory

end ResourceLookup
