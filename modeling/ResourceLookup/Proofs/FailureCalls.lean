import ResourceLookup.Failure.Cache

/-!
# What a failure cache asks of its store

A cache that is switched off leaves the store alone. One that is switched on makes one call of the
store for each of its own, under the key of the lookup. A check looks at the answer for an entry
whose time is not over (`liveEntry?`): with one it fails, and in every other case it passes, where
it reports a failure of the store at most. Recording and clearing give the same whatever the store
answers.
-/

set_option autoImplicit false
set_option relaxedAutoImplicit false

namespace ResourceLookup

/-- What a store answers when it is asked for an entry. -/
abbrev StoreAnswer := Except StoreError (Option FailureEntry)

/-- The entry in an answer, if there is one and its time is not over. -/
def liveEntry? (answer : StoreAnswer) (now : Timestamp) : Option FailureEntry :=
  match answer with
  | .ok (some entry) => if entry.isExpiredAt now then none else some entry
  | .ok none | .error _ => none

/-- What a check reports about an answer without a live entry: that reading failed, if it did. -/
def readingEvents : StoreAnswer → List Event
  | .error _ => [.failureReadFailed]
  | .ok _ => []

/-- An answer has a live entry exactly if it is an entry whose time is not over. -/
theorem liveEntry?_eq_some_iff {answer : StoreAnswer} {now : Timestamp} {entry : FailureEntry} :
    liveEntry? answer now = some entry ↔
      answer = .ok (some entry) ∧ entry.isExpiredAt now = false := by
  unfold liveEntry?
  split
  · next found =>
    by_cases hexpired : found.isExpiredAt now = true
    · rw [if_pos hexpired]
      refine ⟨nofun, ?_⟩
      rintro ⟨hsame, hlive⟩
      obtain rfl := Option.some.inj (Except.ok.inj hsame)
      exact absurd hexpired (by rw [hlive]; exact Bool.false_ne_true)
    · rw [if_neg hexpired, Option.some.injEq]
      refine ⟨?_, fun ⟨hsame, _⟩ ↦ Option.some.inj (Except.ok.inj hsame)⟩
      rintro rfl
      exact ⟨rfl, Bool.eq_false_iff.mpr hexpired⟩
  · simp
  · simp

namespace FailureCache

variable {σ : Type} {cache : FailureCache} {store : FailureStore σ} {moment : Moment}
  {lookupType : String} {identifiers : List String} {state : σ}

/-! ### Switched off -/

theorem check_of_disabled (hdisabled : cache.policy.enabled = false) :
    cache.check store moment lookupType identifiers state = ⟨.ok (), [], state⟩ := by
  rw [check, hdisabled]
  rfl

theorem enabled_of_check_eq_error {failure : CachedLookupFailure}
    (hfails : (cache.check store moment lookupType identifiers state).value = .error failure) :
    cache.policy.enabled = true := by
  cases henabled : cache.policy.enabled with
  | true => rfl
  | false =>
    rw [check_of_disabled henabled] at hfails
    exact nomatch hfails

theorem record_of_disabled (failure : FailureReport) (hdisabled : cache.policy.enabled = false) :
    cache.record store moment lookupType failure identifiers state =
      ⟨classify failure, [], state⟩ := by
  rw [record, hdisabled]
  rfl

theorem clear_of_disabled (hdisabled : cache.policy.enabled = false) :
    cache.clear store lookupType identifiers state = ⟨(), [], state⟩ := by
  rw [clear, hdisabled]
  rfl

/-! ### Switched on -/

/-- A check fails with a live entry. -/
theorem check_of_live {entry : FailureEntry} (henabled : cache.policy.enabled = true)
    (hlive : liveEntry? (store.get moment.monotonic (cache.key lookupType identifiers) state).1
      moment.wall = some entry) :
    cache.check store moment lookupType identifiers state =
      ⟨.error ⟨entry⟩, [.failureHit],
        (store.get moment.monotonic (cache.key lookupType identifiers) state).2⟩ := by
  obtain ⟨hanswer, hexpired⟩ := liveEntry?_eq_some_iff.mp hlive
  rw [check, henabled]
  rcases hasked : store.get moment.monotonic (cache.key lookupType identifiers) state with
    ⟨answer, after⟩
  rw [hasked] at hanswer
  obtain rfl : answer = .ok (some entry) := hanswer
  simp only [hexpired]
  rfl

/-- A check passes without a live entry, also if the store fails. -/
theorem check_of_not_live (henabled : cache.policy.enabled = true)
    (hlive : liveEntry? (store.get moment.monotonic (cache.key lookupType identifiers) state).1
      moment.wall = none) :
    cache.check store moment lookupType identifiers state =
      ⟨.ok (),
        readingEvents (store.get moment.monotonic (cache.key lookupType identifiers) state).1,
        (store.get moment.monotonic (cache.key lookupType identifiers) state).2⟩ := by
  rw [check, henabled]
  rcases hasked : store.get moment.monotonic (cache.key lookupType identifiers) state with
    ⟨error | found, after⟩
  · rfl
  · cases found with
    | none => rfl
    | some entry =>
      have hexpired : entry.isExpiredAt moment.wall = true := by
        rw [hasked] at hlive
        cases hexpired : entry.isExpiredAt moment.wall with
        | true => rfl
        | false => exact nomatch hlive.symm.trans (liveEntry?_eq_some_iff.mpr ⟨rfl, hexpired⟩)
      simp only [hexpired]
      rfl

/-- A check fails exactly with the live entry in the answer. -/
theorem check_eq_error_iff {failure : CachedLookupFailure}
    (henabled : cache.policy.enabled = true) :
    (cache.check store moment lookupType identifiers state).value = .error failure ↔
      liveEntry? (store.get moment.monotonic (cache.key lookupType identifiers) state).1
        moment.wall = some failure.entry := by
  cases hlive : liveEntry?
      (store.get moment.monotonic (cache.key lookupType identifiers) state).1 moment.wall with
  | some entry =>
    rw [check_of_live henabled hlive, Except.error.injEq, Option.some.injEq]
    exact ⟨fun hsame ↦ hsame ▸ rfl, fun hsame ↦ hsame ▸ rfl⟩
  | none =>
    rw [check_of_not_live henabled hlive]
    exact ⟨nofun, nofun⟩

/-- Recording writes the entry of the failure under the key of the lookup, for the time of its
category. -/
theorem record_of_enabled (failure : FailureReport) (henabled : cache.policy.enabled = true) :
    ∃ event, cache.record store moment lookupType failure identifiers state =
      ⟨classify failure, [event],
        (store.put moment.monotonic (cache.key lookupType identifiers)
          (cache.entryOf moment lookupType failure identifiers)
          (cache.policy.ttlFor (classify failure)) state).2⟩ := by
  rw [record, henabled]
  simp only [Bool.not_true, Bool.false_eq_true, if_false]
  rcases store.put moment.monotonic (cache.key lookupType identifiers)
    (cache.entryOf moment lookupType failure identifiers)
    (cache.policy.ttlFor (classify failure)) state with ⟨error | done, after⟩
  · exact ⟨_, rfl⟩
  · exact ⟨_, rfl⟩

/-- Clearing deletes under the key of the lookup. -/
theorem clear_of_enabled (henabled : cache.policy.enabled = true) :
    ∃ events, cache.clear store lookupType identifiers state =
      ⟨(), events, (store.delete (cache.key lookupType identifiers) state).2⟩ := by
  rw [clear, henabled]
  simp only [Bool.not_true, Bool.false_eq_true, if_false]
  rcases store.delete (cache.key lookupType identifiers) state with ⟨error | done, after⟩
  · exact ⟨_, rfl⟩
  · exact ⟨_, rfl⟩

/-! ### The store afterwards -/

theorem check_state_of_enabled (henabled : cache.policy.enabled = true) :
    (cache.check store moment lookupType identifiers state).state =
      (store.get moment.monotonic (cache.key lookupType identifiers) state).2 := by
  cases hlive : liveEntry?
      (store.get moment.monotonic (cache.key lookupType identifiers) state).1 moment.wall with
  | some entry => rw [check_of_live henabled hlive]
  | none => rw [check_of_not_live henabled hlive]

theorem record_state_of_enabled (failure : FailureReport) (henabled : cache.policy.enabled = true) :
    (cache.record store moment lookupType failure identifiers state).state =
      (store.put moment.monotonic (cache.key lookupType identifiers)
        (cache.entryOf moment lookupType failure identifiers)
        (cache.policy.ttlFor (classify failure)) state).2 := by
  obtain ⟨event, hrecord⟩ := record_of_enabled failure henabled
  rw [hrecord]

theorem clear_state_of_enabled (henabled : cache.policy.enabled = true) :
    (cache.clear store lookupType identifiers state).state =
      (store.delete (cache.key lookupType identifiers) state).2 := by
  obtain ⟨events, hclear⟩ := clear_of_enabled henabled
  rw [hclear]

end FailureCache

end ResourceLookup
