import ResourceLookup.Proofs.Clock
import ResourceLookup.Proofs.FleetLookup
import ResourceLookup.Proofs.LookupKeys

/-!
# Failing fast together

Repositories of one service with the same settings, on one store, spare each other lookups that fail
(`Fleet.find_fails_fast`). Once a lookup of one of them has ended in a failure of the service, the
same lookup fails at once in any of them, with that failure and without anything being asked of
anyone, until the whole seconds of its time have passed or the lookup is forgotten. After that it is
made again.

The argument is about the slot under the key of the lookup. While it is there and its time is not
over (`Fleet.Recalls`), the same lookups are refused, so that none of them can end in another
failure and no call but one that forgets the lookup touches the slot (`Fleet.Recalls.take`). Once
it is away, it stays away until such a lookup fails (`Fleet.slotAt?_take_of_absent`). Both hold of
the key, whatever is looked up under it; that the key tells the lookup from others is used for
calls that forget other lookups, and for failures of other lookups.
-/

set_option autoImplicit false
set_option relaxedAutoImplicit false

namespace ResourceLookup

/-- Lookups of one type whose identifiers are the same set, once they are normalized. -/
def Lookup.Same (first second : Lookup) : Prop :=
  first.lookupType = second.lookupType ∧ ∀ id, id ∈ first.requested ↔ id ∈ second.requested

theorem Lookup.Same.key {first second : Lookup} (hsame : first.Same second)
    (failures : FailureCache) : first.key failures = second.key failures := by
  rw [Lookup.key, Lookup.key, hsame.1]
  exact lookupKey_congr failures.repository second.lookupType hsame.2

/-- What a call looks up or forgets. -/
def FleetCall.lookup? {ι : Type} : FleetCall ι → Option Lookup
  | .wait _ => none
  | .find _ _ lookup | .clear _ lookup => some lookup

/-- The lookups of calls have different keys if they are not the same. -/
def FailureCache.TellsApart {ι : Type} (failures : FailureCache) (calls : List (FleetCall ι)) :
    Prop :=
  ∀ first ∈ calls.filterMap FleetCall.lookup?, ∀ second ∈ calls.filterMap FleetCall.lookup?,
    first.key failures = second.key failures → first.Same second

namespace Fleet

variable {ι : Type} {fleet : Fleet ι} {failures : FailureCache} {member : ι}
  {hook : SteadyFetch} {lookup other : Lookup}

/-! ### What members share -/

/-- All members have one and the same failure cache: one service name and the same settings. -/
def Shares (fleet : Fleet ι) (failures : FailureCache) : Prop :=
  ∀ member, (fleet.members member).failures = failures

theorem momentAt_precedes (fleet : Fleet ι) {first second : Nat} (hle : first ≤ second) :
    (fleet.momentAt first).Precedes (fleet.momentAt second) := by
  refine ⟨second - first, ?_⟩
  simp only [momentAt, wall, Moment.later, Moment.mk.injEq, Timestamp.mk.injEq, and_true]
  omega

theorem isDated_momentAt_iff {instant : Nat} : (fleet.momentAt instant).IsDated ↔
    Timestamp.earliest ≤ fleet.epoch.localNanos + instant ∧
      fleet.epoch.localNanos + instant < Timestamp.afterLatest := by
  rw [Moment.IsDated, Timestamp.representable, Bool.and_eq_true, decide_eq_true_eq,
    decide_eq_true_eq]
  rfl

/-- What is between two dates of the calendar is one. -/
theorem isDated_of_le {first between last : Nat} (hfirst : first ≤ between)
    (hlast : between ≤ last) (hdated : (fleet.momentAt first).IsDated)
    (hlater : (fleet.momentAt last).IsDated) : (fleet.momentAt between).IsDated := by
  rw [isDated_momentAt_iff] at hdated hlater ⊢
  omega

/-! ### A remembered failure -/

/-- A failure of a lookup is remembered from an instant on. -/
structure Recalls (fleet : Fleet ι) (failures : FailureCache) (since : Nat) (lookup : Lookup)
    (report : FailureReport) : Prop where
  shares : fleet.Shares failures
  elapsed : since ≤ fleet.now
  slot : fleet.store.slotAt? (lookup.key failures) =
    some (failures.slotOf (fleet.momentAt since) lookup.lookupType report lookup.requested)

/-- The instants of both clocks are dates of the calendar, and the whole seconds of a failure have
not passed. -/
structure Within (fleet : Fleet ι) (failures : FailureCache) (since : Nat)
    (report : FailureReport) (now : Nat) : Prop where
  dated : (fleet.momentAt since).IsDated
  datedNow : (fleet.momentAt now).IsDated
  before : now < since + failures.wholeLifetime report

variable {since now : Nat} {report : FailureReport}

/-- What is within the time of a failure for one fleet is so for another with the same clocks. -/
theorem Within.congr {later : Fleet ι} (hmoment : later.momentAt = fleet.momentAt)
    (hwithin : fleet.Within failures since report now) :
    later.Within failures since report now where
  dated := hmoment ▸ hwithin.dated
  datedNow := hmoment ▸ hwithin.datedNow
  before := hwithin.before

/-- All that is between the failure and an instant within its time is within its time. -/
theorem Within.earlier {between : Nat} (hwithin : fleet.Within failures since report now)
    (hsince : since ≤ between) (hnow : between ≤ now) :
    fleet.Within failures since report between where
  dated := hwithin.dated
  datedNow := isDated_of_le hsince hnow hwithin.dated hwithin.datedNow
  before := Nat.lt_of_le_of_lt hnow hwithin.before

/-- Within the time of a failure the same lookup is refused with it. -/
theorem Recalls.refusal (hrecalls : fleet.Recalls failures since lookup report)
    (hwithin : fleet.Within failures since report fleet.now)
    (hkey : other.key failures = lookup.key failures) :
    fleet.refusal? failures other = some (failures.entryOf (fleet.momentAt since)
      lookup.lookupType report lookup.requested) := by
  have hexpired : (failures.entryOf (fleet.momentAt since) lookup.lookupType report
      lookup.requested).isExpiredAt (fleet.wall fleet.now) = true ↔
        since + failures.wholeLifetime report ≤ fleet.now :=
    FailureCache.isExpiredAt_entryOf_iff lookup.lookupType lookup.requested
      (fleet.momentAt_precedes hrecalls.elapsed) hwithin.dated hwithin.datedNow
  have hnot := Bool.eq_false_iff.mpr (mt hexpired.mp (Nat.not_le.mpr hwithin.before))
  have hslot := hrecalls.slot
  rw [← hkey] at hslot
  exact refusal?_of_live hslot
    (FailureCache.isLiveAt_slotOf lookup.lookupType lookup.requested hwithin.before) hnot

/-! ### Many calls -/

variable [DecidableEq ι] {call : FleetCall ι} {calls : List (FleetCall ι)}

theorem run_cons (fleet : Fleet ι) (call : FleetCall ι) (rest : List (FleetCall ι)) :
    fleet.run (call :: rest) = (fleet.take call).run rest := rfl

@[simp] theorem epoch_take (fleet : Fleet ι) (call : FleetCall ι) :
    (fleet.take call).epoch = fleet.epoch := by
  cases call <;> rfl

theorem momentAt_take (fleet : Fleet ι) (call : FleetCall ι) :
    (fleet.take call).momentAt = fleet.momentAt := by
  funext instant
  simp only [momentAt, wall, epoch_take]

theorem momentAt_run (fleet : Fleet ι) (calls : List (FleetCall ι)) :
    (fleet.run calls).momentAt = fleet.momentAt := by
  induction calls generalizing fleet with
  | nil => rfl
  | cons call rest ih => rw [run_cons, ih, momentAt_take]

theorem Shares.keep (hshares : fleet.Shares failures) (member : ι)
    (left : Repository × MemoryStore) : (fleet.keep member left).Shares failures := by
  intro other
  rw [Fleet.keep]
  by_cases hother : other = member
  · simp only [hother, if_true]
    exact hshares member
  · simp only [hother, if_false]
    exact hshares other

theorem Shares.take (hshares : fleet.Shares failures) (call : FleetCall ι) :
    (fleet.take call).Shares failures := by
  cases call with
  | wait elapsed => exact hshares
  | find member hook lookup => exact hshares.keep member _
  | clear member lookup => exact hshares.keep member _

theorem Shares.run (hshares : fleet.Shares failures) (calls : List (FleetCall ι)) :
    (fleet.run calls).Shares failures := by
  induction calls generalizing fleet with
  | nil => exact hshares
  | cons call rest ih => exact ih (hshares.take call)

section Enabled

variable (hshares : fleet.Shares failures) (henabled : failures.policy.enabled = true)

include hshares henabled

theorem now_le_take (call : FleetCall ι) : fleet.now ≤ (fleet.take call).now := by
  cases call with
  | wait elapsed => exact Nat.le_add_right fleet.now elapsed
  | find member hook lookup => exact now_le_find (hshares member) henabled hook lookup
  | clear member lookup => exact Nat.le_refl fleet.now

theorem now_le_run (calls : List (FleetCall ι)) : fleet.now ≤ (fleet.run calls).now := by
  induction calls generalizing fleet with
  | nil => exact Nat.le_refl fleet.now
  | cons call rest ih =>
    exact Nat.le_trans (now_le_take hshares henabled call) (ih (hshares.take call))

end Enabled

/-! ### Within the time of a failure -/

/-- Within the time of a failure no call ends it, but one that forgets the lookup. -/
theorem Recalls.take (hrecalls : fleet.Recalls failures since lookup report)
    (henabled : failures.policy.enabled = true)
    (hwithin : fleet.Within failures since report fleet.now)
    (hclear : ∀ member cleared, call = .clear member cleared →
      cleared.key failures ≠ lookup.key failures) :
    (fleet.take call).Recalls failures since lookup report where
  shares := hrecalls.shares.take call
  elapsed := Nat.le_trans hrecalls.elapsed (now_le_take hrecalls.shares henabled call)
  slot := by
    have hstore : (fleet.take call).store.slotAt? (lookup.key failures) =
        fleet.store.slotAt? (lookup.key failures) := by
      cases call with
      | wait elapsed => rfl
      | find member hook asked =>
        have hmember := hrecalls.shares member
        -- A lookup under the key is refused, so that it cannot end in a failure that would take the
        -- place of the remembered one.
        by_cases hkey : asked.key failures = lookup.key failures
        · have hrefusal := hrecalls.refusal hwithin hkey
          rw [Fleet.take, keep, (find_of_refusal hmember henabled hook hrefusal).1]
        · exact slotAt?_find_of_ne hmember henabled hook hkey
      | clear member cleared =>
        rw [Fleet.take, keep, slotAt?_clear (hrecalls.shares member) henabled,
          if_neg (hclear member cleared rfl)]
    rw [hstore, hrecalls.slot, momentAt_take]

/-- Within the time of a failure it is remembered, until the lookup is forgotten. -/
theorem Recalls.run (hrecalls : fleet.Recalls failures since lookup report)
    (henabled : failures.policy.enabled = true)
    (hwithin : fleet.Within failures since report (fleet.run calls).now)
    (hclear : ∀ member cleared, .clear member cleared ∈ calls →
      cleared.key failures ≠ lookup.key failures) :
    (fleet.run calls).Recalls failures since lookup report := by
  induction calls generalizing fleet with
  | nil => exact hrecalls
  | cons call rest ih =>
    have hnow : fleet.now ≤ (fleet.run (call :: rest)).now :=
      now_le_run hrecalls.shares henabled (call :: rest)
    have htaken : (fleet.take call).Recalls failures since lookup report := by
      refine hrecalls.take henabled (hwithin.earlier hrecalls.elapsed hnow) ?_
      rintro member cleared rfl
      exact hclear member cleared (.head _)
    exact ih htaken (hwithin.congr (fleet.momentAt_take call)) fun member cleared hmem ↦
      hclear member cleared (.tail _ hmem)

/-! ### After a lookup was forgotten -/

/-- A call is a lookup under a key that ends in a failure of the service. -/
def Fails (fleet : Fleet ι) (failures : FailureCache) (key : String) (call : FleetCall ι) : Prop :=
  ∃ member hook asked error, call = .find member hook asked ∧ asked.key failures = key ∧
    (fleet.find member hook asked).1 = .error (.service error)

/-- Only a lookup that fails leaves a slot where there is none. -/
theorem slotAt?_take_of_absent (hshares : fleet.Shares failures)
    (henabled : failures.policy.enabled = true) {key : String}
    (habsent : fleet.store.slotAt? key = none) (hfails : ¬ fleet.Fails failures key call) :
    (fleet.take call).store.slotAt? key = none := by
  cases call with
  | wait elapsed => exact habsent
  | find member hook asked =>
    by_cases hkey : asked.key failures = key
    · subst hkey
      refine slotAt?_find_of_absent (hshares member) henabled habsent fun error hresult ↦ ?_
      exact hfails ⟨member, hook, asked, error, rfl, rfl, hresult⟩
    · rw [take, keep, slotAt?_find_of_ne (hshares member) henabled hook hkey]
      exact habsent
  | clear member cleared =>
    rw [take, keep, slotAt?_clear (hshares member) henabled, habsent, ite_self]

theorem slotAt?_run_of_absent (hshares : fleet.Shares failures)
    (henabled : failures.policy.enabled = true) {key : String}
    (habsent : fleet.store.slotAt? key = none)
    (hfails : ∀ front call rest, calls = front ++ call :: rest →
      ¬ (fleet.run front).Fails failures key call) :
    (fleet.run calls).store.slotAt? key = none := by
  induction calls generalizing fleet with
  | nil => exact habsent
  | cons call rest ih =>
    have hfirst : ¬ fleet.Fails failures key call := hfails [] call rest rfl
    refine ih (hshares.take call) (slotAt?_take_of_absent hshares henabled habsent hfirst) ?_
    intro front later after hrest
    exact hfails (call :: front) later after (congrArg (call :: ·) hrest)

/-- A lookup that ends in a failure of the service is remembered from its end on. -/
theorem recalls_of_service (hshares : fleet.Shares failures)
    (henabled : failures.policy.enabled = true) {error : ServiceError}
    (hresult : (fleet.find member hook lookup).1 = .error (.service error)) :
    (fleet.take (.find member hook lookup)).Recalls failures
      (fleet.take (.find member hook lookup)).now lookup error.report where
  shares := hshares.take _
  elapsed := Nat.le_refl _
  slot := slotAt?_find_of_service (hshares member) henabled hresult

/-- Within the time of a failure a lookup under its key is refused, until that is forgotten. -/
theorem find_of_failed {failing : ι} {made : SteadyFetch} {asked : Lookup} {error : ServiceError}
    (hshares : fleet.Shares failures) (henabled : failures.policy.enabled = true)
    (hresult : (fleet.find failing made lookup).1 = .error (.service error))
    (hclear : ∀ other cleared, .clear other cleared ∈ calls →
      cleared.key failures ≠ lookup.key failures)
    (hkey : asked.key failures = lookup.key failures) (member : ι) (hook : SteadyFetch) :
    let ended := fleet.take (.find failing made lookup)
    let again := ended.run calls
    (ended.momentAt ended.now).IsDated → (ended.momentAt again.now).IsDated →
    again.now < ended.now + failures.wholeLifetime error.report →
    (∃ id ∈ asked.requested, (again.repository member).results.contains id = false) →
      again.find member hook asked = (.error (.cachedFailure ⟨failures.entryOf
        (ended.momentAt ended.now) lookup.lookupType error.report lookup.requested⟩),
          (again.repository member).report .failureHit, again.store) := by
  intro ended again hdated hlater hbefore hmissing
  have hrecalls : again.Recalls failures ended.now lookup error.report :=
    (recalls_of_service hshares henabled hresult).run henabled ⟨hdated, hlater, hbefore⟩ hclear
  have hmoment : again.momentAt = ended.momentAt := ended.momentAt_run calls
  have hwithin : ended.Within failures ended.now error.report again.now :=
    ⟨hdated, hlater, hbefore⟩
  have hrefusal := hrecalls.refusal (hwithin.congr hmoment) hkey
  rw [hmoment] at hrefusal
  exact (find_of_refusal (hrecalls.shares member) henabled hook hrefusal).2 hmissing

/-- After a lookup was forgotten it is made again, unless one under its key has failed since. -/
theorem find_of_cleared {clearing : ι} {cleared asked : Lookup} (hshares : fleet.Shares failures)
    (henabled : failures.policy.enabled = true)
    (hfails : ∀ front call rest, calls = front ++ call :: rest →
      ¬ ((fleet.take (.clear clearing cleared)).run front).Fails failures (cleared.key failures)
        call)
    (hkey : asked.key failures = cleared.key failures) (member : ι) (hook : SteadyFetch) :
    let again := (fleet.take (.clear clearing cleared)).run calls
    let plain := (again.repository member).findByIds hook.fetch asked.ids
    (again.find member hook asked).1 = plain.1 ∧
      ∃ events, (again.find member hook asked).2.1 = plain.2.reportAll events := by
  intro again plain
  have hended : (fleet.take (.clear clearing cleared)).Shares failures := hshares.take _
  have habsent : (fleet.take (.clear clearing cleared)).store.slotAt? (cleared.key failures) =
      none :=
    (slotAt?_clear (hshares clearing) henabled cleared _).trans (if_pos rfl)
  have hnone := slotAt?_run_of_absent hended henabled habsent hfails
  rw [← hkey] at hnone
  exact find_of_not_refused (hended.run calls member) henabled hook (refusal?_of_absent hnone)

/-- Repositories fail fast together. Assumes: members with one and the same failure cache, which is
switched on; calls one after the other, whose lookups have different keys if they are not the same;
a clock that tells dates of the calendar. Once a lookup has ended in a failure of the service, any
member is refused the same lookup with that failure, as long as the whole seconds of its time have
not passed, the lookup was not forgotten, and not all resources are there; nothing else happens to
the repository, whatever its hook would do. After the lookup was forgotten, and until it fails
again, it is made as one that is not guarded. -/
theorem find_fails_fast (fleet : Fleet ι) (failures : FailureCache)
    (before between : List (FleetCall ι)) (first : FleetCall ι) (member : ι) (hook : SteadyFetch)
    (asked : Lookup) (hshares : fleet.Shares failures)
    (henabled : failures.policy.enabled = true)
    (hkeys : failures.TellsApart (before ++ first :: (between ++ [.find member hook asked])))
    (hdated : (fleet.momentAt fleet.now).IsDated)
    (hlater : (fleet.momentAt (fleet.run (before ++ first :: between)).now).IsDated) :
    let reached := fleet.run before
    let ended := reached.take first
    let again := ended.run between
    (∀ failing made lookup error, first = .find failing made lookup → lookup.Same asked →
      (reached.find failing made lookup).1 = .error (.service error) →
      again.now < ended.now +
        (failures.policy.ttlFor (classify error.report)).seconds * nanosPerSecond →
      (∀ other cleared, .clear other cleared ∈ between → ¬ cleared.Same asked) →
      (∃ id ∈ asked.requested, (again.repository member).results.contains id = false) →
      ∃ failure, again.find member hook asked = (.error (.cachedFailure failure),
          (again.repository member).report .failureHit, again.store) ∧
        failure.entry.category = classify error.report ∧
        failure.entry.message = error.report.message ∧
        failure.entry.httpStatus = if error.synthetic then none else some error.status.code) ∧
    ∀ clearing cleared, first = .clear clearing cleared → cleared.Same asked →
      (∀ front other made lookup rest, between = front ++ .find other made lookup :: rest →
        lookup.Same asked → ∀ error,
          ((ended.run front).find other made lookup).1 ≠ .error (.service error)) →
      let plain := (again.repository member).findByIds hook.fetch asked.ids
      (again.find member hook asked).1 = plain.1 ∧
        ∃ events, (again.find member hook asked).2.1 = plain.2.reportAll events := by
  intro reached ended again
  have hreached : reached.Shares failures := hshares.run before
  have hended : ended.Shares failures := hreached.take first
  have hsame : ∀ call ∈ between, ∀ lookup, call.lookup? = some lookup →
      lookup.key failures = asked.key failures → lookup.Same asked := by
    intro call hcall lookup hlookup hkey
    refine hkeys lookup (List.mem_filterMap.mpr ⟨call, ?_, hlookup⟩) asked
      (List.mem_filterMap.mpr ⟨.find member hook asked, ?_, rfl⟩) hkey
    · simp [hcall]
    · simp
  have hmoment : ended.momentAt = fleet.momentAt := by
    rw [momentAt_take, momentAt_run]
  have hrun : fleet.run (before ++ first :: between) = again := List.foldl_append
  refine ⟨?_, ?_⟩
  · rintro failing made lookup error rfl hlookup hresult hbefore hclear hmissing
    have hkey : asked.key failures = lookup.key failures := (hlookup.key failures).symm
    rw [hrun, ← hmoment] at hlater
    have hdatedEnd : (ended.momentAt ended.now).IsDated := by
      rw [← hmoment] at hdated
      refine isDated_of_le ?_ (now_le_run hended henabled between) hdated hlater
      exact Nat.le_trans (now_le_run hshares henabled before) (now_le_take hreached henabled _)
    refine ⟨_, find_of_failed hreached henabled hresult (fun other cleared hcleared hsameKey ↦ ?_)
      hkey member hook hdatedEnd hlater hbefore hmissing, rfl, rfl, rfl⟩
    exact hclear other cleared hcleared (hsame _ hcleared cleared rfl (hsameKey.trans hkey.symm))
  · rintro clearing cleared rfl hcleared hfails
    have hkey : asked.key failures = cleared.key failures := (hcleared.key failures).symm
    refine find_of_cleared hreached henabled ?_ hkey member hook
    rintro front call rest rfl ⟨other, made, lookup, error, rfl, hsameKey, hresult⟩
    have hcall : .find other made lookup ∈ front ++ .find other made lookup :: rest := by simp
    exact hfails front other made lookup rest rfl
      (hsame _ hcall lookup rfl (hsameKey.trans hkey.symm)) error hresult

/-- Two repositories of products, nothing of which is there. -/
def twoShops : Fleet Bool where
  members _ := .ofRepository (.start (.start Repository.idleClient))
  store := .empty
  now := 0
  epoch := ⟨Timestamp.ofCivil ⟨2024, 1, 1⟩ 0 0 0 0, 0⟩

/-- The failure cache of the two. -/
def shopFailures : FailureCache := ⟨"products", FailurePolicy.standard⟩

/-- A hook that has lost its way. -/
def lostHook : SteadyFetch := (FetchPlan.failing ⟨"lost", []⟩).steady

/-- A lookup of two products. -/
def firstLookup : Lookup := ⟨"by_id", ["42", " 7"]⟩

/-- The same lookup in other words. -/
def secondLookup : Lookup := ⟨"by_id", ["7 ", "", "42", "7"]⟩

theorem same_of_twoShops {first second : Lookup} (hfirst : first ∈ [firstLookup, secondLookup])
    (hsecond : second ∈ [firstLookup, secondLookup]) : first.Same second := by
  have hasks : ∀ lookup ∈ [firstLookup, secondLookup], lookup.lookupType = "by_id" ∧
      ∀ id, id ∈ lookup.requested ↔ id = "7" ∨ id = "42" := by
    have hfirst : firstLookup.requested = ["42", "7"] := by decide
    have hsecond : secondLookup.requested = ["7", "42"] := by decide
    intro lookup hlookup
    rcases List.mem_pair.mp hlookup with rfl | rfl
    · exact ⟨rfl, fun id ↦ by rw [hfirst, List.mem_pair, or_comm]⟩
    · exact ⟨rfl, fun id ↦ by rw [hsecond, List.mem_pair]⟩
  exact ⟨(hasks first hfirst).1.trans (hasks second hsecond).1.symm,
    fun id ↦ ((hasks first hfirst).2 id).trans ((hasks second hsecond).2 id).symm⟩

theorem find_fails_fast_second_shop :
    ∃ failure, (((twoShops.take (.find false lostHook firstLookup)).run [.wait 119999999999]).find
        true lostHook secondLookup).1 = .error (.cachedFailure failure) ∧
      failure.entry.httpStatus = none := by
  have hfailures : (twoShops.members false).failures = shopFailures := rfl
  have habsent : twoShops.store.slotAt? (firstLookup.key shopFailures) = none := rfl
  have hmade := find_of_not_refused hfailures rfl lostHook (refusal?_of_absent habsent)
  have hresult : (twoShops.find false lostHook firstLookup).1 =
      .error (.service (Repository.lookupFailure Repository.idleClient ⟨"lost", []⟩)) :=
    hmade.1
  have hnow : (twoShops.take (.find false lostHook firstLookup)).now = 0 := by
    obtain ⟨events, hafter⟩ := hmade.2
    exact congrArg (·.session.now) hafter
  have hkeys : shopFailures.TellsApart ([] ++ FleetCall.find false lostHook firstLookup ::
      ([.wait 119999999999] ++ [.find true lostHook secondLookup])) :=
    fun first hfirst second hsecond _ ↦ same_of_twoShops hfirst hsecond
  have hend : (twoShops.run ([] ++ .find false lostHook firstLookup ::
      [.wait 119999999999])).now = 119999999999 := congrArg (· + 119999999999) hnow
  have hfast := find_fails_fast twoShops shopFailures [] [.wait 119999999999]
    (.find false lostHook firstLookup) true lostHook secondLookup (fun _ ↦ rfl) rfl hkeys
    (by decide) (by rw [hend]; decide)
  have hbefore : 119999999999 < (shopFailures.policy.ttlFor (classify (Repository.lookupFailure
      Repository.idleClient ⟨"lost", []⟩).report)).seconds * nanosPerSecond := by decide
  obtain ⟨failure, hrefused, -, -, hstatus⟩ := hfast.1 false lostHook firstLookup _ rfl
    (same_of_twoShops (.head _) (.tail _ (.head _))) hresult (Nat.add_lt_add_left hbefore _) nofun
    ⟨"7", by decide, by rfl⟩
  exact ⟨failure, congrArg Prod.fst hrefused, hstatus⟩

end Fleet

end ResourceLookup
