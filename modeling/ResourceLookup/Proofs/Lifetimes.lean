import ResourceLookup.Proofs.MemorySlots

/-!
# Lifetimes on two clocks

A remembered failure ends twice: its slot in the store inside the process at an instant of the
monotonic clock, and the entry itself at a time of the wall clock. The slot has the lifetime in
full, the entry has its whole seconds. Where both clocks advance alike (`Moment.Precedes`), the
entry ends first, when its whole seconds have passed (`FailureCache.isExpiredAt_entryOf_iff`), and
its slot is live until then (`FailureCache.isLiveAt_slotOf`). This includes lifetimes whose end one
of the clocks cannot tell, since no time of the calendar is as late.
-/

set_option autoImplicit false
set_option relaxedAutoImplicit false

namespace ResourceLookup

namespace Moment

/-- The reading of both clocks so many nanoseconds later. -/
def later (moment : Moment) (elapsed : Nat) : Moment :=
  ⟨moment.monotonic + elapsed,
    { moment.wall with localNanos := moment.wall.localNanos + elapsed }⟩

/-- Both clocks advance alike from the first moment to the second. -/
def Precedes (first second : Moment) : Prop :=
  ∃ elapsed, second = first.later elapsed

/-- The wall clock tells a date of the calendar. -/
def IsDated (moment : Moment) : Prop :=
  Timestamp.representable moment.wall.localNanos = true

instance (moment : Moment) : Decidable moment.IsDated :=
  inferInstanceAs (Decidable (_ = true))

variable {first second third : Moment}

theorem Precedes.monotonic_le (hprecedes : first.Precedes second) :
    first.monotonic ≤ second.monotonic := by
  obtain ⟨elapsed, rfl⟩ := hprecedes
  exact Nat.le_add_right _ _

end Moment

/-! ### Entries -/

/-- The calendar is shorter than any number of seconds that the wall clock cannot add. -/
theorem Timestamp.calendar_span : afterLatest - earliest < Nat.pow 2 63 * nanosPerSecond := by
  decide

/-- An entry has expired once its whole seconds have passed. Assumes: times of the calendar, told
with the same offset. -/
theorem FailureEntry.isExpiredAt_iff {entry : FailureEntry} {now : Timestamp}
    (hmade : Timestamp.representable entry.cachedAt.localNanos = true)
    (hnow : Timestamp.representable now.localNanos = true)
    (hoffset : now.offset = entry.cachedAt.offset) :
    entry.isExpiredAt now = true ↔
      entry.cachedAt.localNanos + entry.ttlSeconds * nanosPerSecond ≤ now.localNanos := by
  have hspan := Timestamp.calendar_span
  simp only [Timestamp.representable, Bool.and_eq_true, decide_eq_true_eq] at hmade hnow
  rw [isExpiredAt, expiry?]
  by_cases hseconds : entry.ttlSeconds < Nat.pow 2 63
  · rw [if_pos hseconds, Timestamp.add?]
    by_cases hdated : Timestamp.representable
        (entry.cachedAt.localNanos + entry.ttlSeconds * nanosPerSecond) = true
    · simp only [hdated, if_true, Timestamp.notAfter, Timestamp.instant, hoffset,
        decide_eq_true_eq]
      omega
    · simp only [hdated]
      simp only [Timestamp.representable, Bool.and_eq_true, decide_eq_true_eq] at hdated
      refine ⟨nofun, fun hpassed ↦ absurd ?_ hdated⟩
      have hpositive : 0 ≤ (entry.ttlSeconds : Int) * nanosPerSecond :=
        Int.mul_nonneg (Int.natCast_nonneg _) (Int.natCast_nonneg _)
      omega
  · rw [if_neg hseconds]
    have hlong : (Nat.pow 2 63 : Int) * nanosPerSecond ≤ entry.ttlSeconds * nanosPerSecond :=
      Int.mul_le_mul_of_nonneg_right (Int.ofNat_le.mpr (Nat.le_of_not_lt hseconds))
        (Int.natCast_nonneg _)
    refine ⟨nofun, fun hpassed ↦ ?_⟩
    omega

/-! ### Records -/

namespace FailureCache

variable {cache : FailureCache} {made now : Moment} {failure : FailureReport}

/-- The slot of a recorded failure in the store inside the process. -/
def slotOf (cache : FailureCache) (made : Moment) (lookupType : String) (failure : FailureReport)
    (identifiers : List String) : Slot :=
  ⟨cache.entryOf made lookupType failure identifiers,
    MemoryStore.expiryOf made.monotonic (cache.policy.ttlFor (classify failure))⟩

/-- The whole seconds for which a failure is remembered, in nanoseconds. -/
def wholeLifetime (cache : FailureCache) (failure : FailureReport) : Nat :=
  (cache.policy.ttlFor (classify failure)).seconds * nanosPerSecond

/-- The entry of a record has expired once its whole seconds have passed. -/
theorem isExpiredAt_entryOf_iff (lookupType : String) (identifiers : List String)
    (hprecedes : made.Precedes now) (hmade : made.IsDated) (hnow : now.IsDated) :
    (cache.entryOf made lookupType failure identifiers).isExpiredAt now.wall = true ↔
      made.monotonic + cache.wholeLifetime failure ≤ now.monotonic := by
  obtain ⟨elapsed, rfl⟩ := hprecedes
  have hexpired : (cache.entryOf made lookupType failure identifiers).isExpiredAt
      (made.later elapsed).wall = true ↔ _ := FailureEntry.isExpiredAt_iff hmade hnow rfl
  rw [hexpired]
  simp only [entryOf, Moment.later, wholeLifetime]
  omega

/-- The slot of a record is live until its whole seconds have passed. -/
theorem isLiveAt_slotOf {instant : Nat} (lookupType : String) (identifiers : List String)
    (hbefore : instant < made.monotonic + cache.wholeLifetime failure) :
    (cache.slotOf made lookupType failure identifiers).isLiveAt instant = true := by
  have hwhole : cache.wholeLifetime failure ≤ (cache.policy.ttlFor (classify failure)).nanos :=
    Nat.div_mul_le_self _ _
  refine Slot.isLiveAt_iff.mpr fun expiry hexpiry ↦ ?_
  simp only [slotOf, MemoryStore.expiryOf] at hexpiry
  split at hexpiry
  · obtain rfl := Option.some.inj hexpiry
    omega
  · cases hexpiry

end FailureCache

end ResourceLookup
