import ResourceLookup.Proofs.FailureCalls
import ResourceLookup.Proofs.Lifetimes

/-!
# Histories of remembered failures

Any number of failure caches work on one store inside the process (`FailureHistory`). A check
depends on one call of the past at most, the latest one that wrote under the key of the lookup
(`FailureHistory.latestWrite?`): it fails exactly if that call recorded a failure whose whole
seconds have not passed, and then with what was recorded (`FailureHistory.check_iff_recorded`).

The store is related to the history by `FailureHistory.Mirrors`. Each slot is that of the latest
write under its key, and the slot of a latest write is there unless it ended before some call. No
call breaks this, whatever its time (`FailureHistory.Mirrors.perform`): what goes by itself has
ended. Only at the end is it used that both clocks advance alike, so that a slot which ended has an
entry which ended.
-/

set_option autoImplicit false
set_option relaxedAutoImplicit false

namespace ResourceLookup

/-- A call that has to do with remembered failures. -/
inductive FailureCall where
  | check (cache : FailureCache) (lookupType : String) (identifiers : List String)
  | record (cache : FailureCache) (lookupType : String) (failure : FailureReport)
      (identifiers : List String)
  | clear (cache : FailureCache) (lookupType : String) (identifiers : List String)
  | purge

namespace FailureCall

/-- The store after a call at a moment. -/
def perform (call : FailureCall) (moment : Moment) (store : MemoryStore) : MemoryStore :=
  match call with
  | .check cache lookupType identifiers =>
    (cache.check MemoryStore.interface moment lookupType identifiers store).state
  | .record cache lookupType failure identifiers =>
    (cache.record MemoryStore.interface moment lookupType failure identifiers store).state
  | .clear cache lookupType identifiers =>
    (cache.clear MemoryStore.interface lookupType identifiers store).state
  | .purge => (store.purgeExpired moment.monotonic).2

/-- Whether a call writes under a key: it records or clears there, by a cache that is switched
on. -/
def writes (key : String) : FailureCall → Bool
  | .record cache lookupType _ identifiers | .clear cache lookupType identifiers =>
    cache.policy.enabled && cache.key lookupType identifiers == key
  | .check _ _ _ | .purge => false

/-- The slot that a call leaves where it writes. -/
def slot? (made : Moment) : FailureCall → Option Slot
  | .record cache lookupType failure identifiers =>
    some (cache.slotOf made lookupType failure identifiers)
  | .check _ _ _ | .clear _ _ _ | .purge => none

end FailureCall

/-- Calls in turn, each at a moment. -/
abbrev FailureHistory := List (Moment × FailureCall)

/-- Moments in turn, between which both clocks advance alike, at dates of the calendar. -/
structure KeepsTime (moments : List Moment) : Prop where
  advancing : moments.Pairwise Moment.Precedes
  dated : ∀ moment ∈ moments, moment.IsDated

/-- Moments keep time still when some are left out. -/
theorem KeepsTime.sublist {moments fewer : List Moment} (htime : KeepsTime moments)
    (hfewer : fewer.Sublist moments) : KeepsTime fewer where
  advancing := htime.advancing.sublist hfewer
  dated moment hmoment := htime.dated moment (hfewer.subset hmoment)

/-- Moments keep time if they are so much later than one of them all, in ascending order. -/
theorem KeepsTime.of_later (start : Moment) {elapsed : List Nat}
    (hascending : elapsed.Pairwise (· ≤ ·))
    (hdated : ∀ nanos ∈ elapsed, (start.later nanos).IsDated) :
    KeepsTime (elapsed.map start.later) where
  advancing := by
    refine List.pairwise_map.mpr (hascending.imp fun {first second} hle ↦ ⟨second - first, ?_⟩)
    simp only [Moment.later, Moment.mk.injEq, Timestamp.mk.injEq, and_true]
    omega
  dated moment hmoment := by
    obtain ⟨nanos, hnanos, rfl⟩ := List.mem_map.mp hmoment
    exact hdated nanos hnanos

namespace FailureHistory

/-- The store after all calls of a history. -/
def storeAfter (history : FailureHistory) : MemoryStore :=
  history.foldl (fun store step ↦ step.2.perform step.1 store) MemoryStore.empty

/-- The latest call that wrote under a key, with its moment. -/
def latestWrite? (key : String) (history : FailureHistory) : Option (Moment × FailureCall) :=
  (history.filter fun step ↦ step.2.writes key).getLast?

/-- The slot that the latest call left that wrote under a key. -/
def latestSlot? (key : String) (history : FailureHistory) : Option Slot :=
  (latestWrite? key history).bind fun step ↦ step.2.slot? step.1

variable {key : String} {history past : FailureHistory} {step : Moment × FailureCall}
  {store : MemoryStore}

theorem latestWrite?_concat (key : String) (past : FailureHistory)
    (step : Moment × FailureCall) :
    latestWrite? key (past ++ [step]) =
      if step.2.writes key then some step else latestWrite? key past := by
  rw [latestWrite?, List.filter_append]
  cases hwrites : step.2.writes key with
  | true => simp [hwrites]
  | false => simp [hwrites, latestWrite?]

theorem latestSlot?_concat_of_writes (past : FailureHistory) (hwrites : step.2.writes key = true) :
    latestSlot? key (past ++ [step]) = step.2.slot? step.1 := by
  rw [latestSlot?, latestWrite?_concat, if_pos hwrites, Option.bind_some]

theorem latestSlot?_concat_of_not_writes (past : FailureHistory)
    (hwrites : step.2.writes key = false) :
    latestSlot? key (past ++ [step]) = latestSlot? key past := by
  rw [latestSlot?, latestWrite?_concat, hwrites, if_neg Bool.false_ne_true, latestSlot?]

/-- A call that does not write under a key leaves no trace in what was written there last. -/
theorem latestWrite?_remove (before after : FailureHistory) (hwrites : step.2.writes key = false) :
    latestWrite? key (before ++ step :: after) = latestWrite? key (before ++ after) := by
  rw [latestWrite?, latestWrite?, List.filter_append, List.filter_append,
    List.filter_cons_of_neg (by rw [hwrites]; exact Bool.false_ne_true)]

/-- A write is the latest one if no later call writes under its key. -/
theorem latestWrite?_of_last (before : FailureHistory) {after : FailureHistory}
    (hwrites : step.2.writes key = true) (hafter : ∀ later ∈ after, later.2.writes key = false) :
    latestWrite? key (before ++ step :: after) = some step := by
  have hnone : after.filter (fun later ↦ later.2.writes key) = [] :=
    List.filter_eq_nil_iff.mpr fun later hlater ↦ by simp [hafter later hlater]
  have honly : (step :: after).filter (fun later ↦ later.2.writes key) = [step] := by
    rw [List.filter_cons_of_pos (by exact hwrites), hnone]
  rw [latestWrite?, List.filter_append, honly, List.getLast?_append, List.getLast?_singleton,
    Option.some_or]

/-! ### What the store has to do with the history -/

/-- Each slot of the store is that of the latest write under its key, and the slot of a latest write
is in the store unless it ended before some call. -/
structure Mirrors (history : FailureHistory) (store : MemoryStore) : Prop where
  sound : ∀ key slot, (key, slot) ∈ store.slots → latestSlot? key history = some slot
  complete : ∀ key slot, latestSlot? key history = some slot →
    (key, slot) ∈ store.slots ∨ ∃ step ∈ history, slot.isLiveAt step.1.monotonic = false

namespace Mirrors

theorem empty : Mirrors [] MemoryStore.empty where
  sound _ _ hmem := absurd hmem MemoryStore.not_mem_empty
  complete _ _ hslot := nomatch hslot

/-- A call that writes nowhere takes away ended slots at most. -/
theorem sweep {after : MemoryStore} (hpast : Mirrors past store)
    (hwrites : ∀ key, step.2.writes key = false) (hsweeps : store.Sweeps step.1.monotonic after) :
    Mirrors (past ++ [step]) after where
  sound key slot hmem := by
    rw [latestSlot?_concat_of_not_writes past (hwrites key)]
    exact hpast.sound key slot (hsweeps.taken _ hmem)
  complete key slot hslot := by
    rw [latestSlot?_concat_of_not_writes past (hwrites key)] at hslot
    rcases hpast.complete key slot hslot with hmem | ⟨ended, hended, hdead⟩
    · cases hlive : slot.isLiveAt step.1.monotonic with
      | true => exact .inl (hsweeps.kept _ hmem hlive)
      | false => exact .inr ⟨step, List.mem_append_right _ (.head _), hlive⟩
    · exact .inr ⟨ended, List.mem_append_left _ hended, hdead⟩

/-- A call that writes under one key only changes what is there. -/
theorem write {after : MemoryStore} (hpast : Mirrors past store) (written : String)
    (hwrites : ∀ key, step.2.writes key = true ↔ written = key)
    (hafter : ∀ key slot, (key, slot) ∈ after.slots ↔
      (key, slot) ∈ store.slots ∧ key ≠ written ∨ key = written ∧ step.2.slot? step.1 = some slot) :
    Mirrors (past ++ [step]) after where
  sound key slot hmem := by
    rcases (hafter key slot).mp hmem with ⟨hold, hkey⟩ | ⟨rfl, hslot⟩
    · have hother : step.2.writes key = false :=
        Bool.eq_false_iff.mpr fun htrue ↦ hkey ((hwrites key).mp htrue).symm
      rw [latestSlot?_concat_of_not_writes past hother]
      exact hpast.sound key slot hold
    · rw [latestSlot?_concat_of_writes past ((hwrites key).mpr rfl), hslot]
  complete key slot hslot := by
    by_cases hkey : written = key
    · rw [latestSlot?_concat_of_writes past ((hwrites key).mpr hkey)] at hslot
      exact .inl ((hafter key slot).mpr (.inr ⟨hkey.symm, hslot⟩))
    · have hother : step.2.writes key = false :=
        Bool.eq_false_iff.mpr fun htrue ↦ hkey ((hwrites key).mp htrue)
      rw [latestSlot?_concat_of_not_writes past hother] at hslot
      rcases hpast.complete key slot hslot with hmem | ⟨ended, hended, hdead⟩
      · exact .inl ((hafter key slot).mpr (.inl ⟨hmem, Ne.symm hkey⟩))
      · exact .inr ⟨ended, List.mem_append_left _ hended, hdead⟩

/-- No call breaks the relation, whatever its time. -/
theorem perform (hpast : Mirrors past store) (moment : Moment) (call : FailureCall) :
    Mirrors (past ++ [(moment, call)]) (call.perform moment store) := by
  have hidle : (∀ key, call.writes key = false) → Mirrors (past ++ [(moment, call)]) store :=
    fun hwrites ↦ hpast.sweep hwrites (.refl moment.monotonic store)
  cases call with
  | check cache lookupType identifiers =>
    cases henabled : cache.policy.enabled with
    | true =>
      refine hpast.sweep (fun _ ↦ rfl) ?_
      rw [FailureCall.perform, FailureCache.check_state_of_enabled henabled]
      exact MemoryStore.sweeps_get moment.monotonic _ store
    | false =>
      rw [FailureCall.perform, FailureCache.check_of_disabled henabled]
      exact hidle fun _ ↦ rfl
  | record cache lookupType failure identifiers =>
    cases henabled : cache.policy.enabled with
    | true =>
      rw [FailureCall.perform, FailureCache.record_state_of_enabled failure henabled]
      refine hpast.write (cache.key lookupType identifiers) (fun key ↦ ?_) fun key slot ↦ ?_
      · simp [FailureCall.writes, henabled]
      · exact MemoryStore.mem_insertSlot.trans
          (by simp [FailureCall.slot?, FailureCache.slotOf, eq_comm])
    | false =>
      rw [FailureCall.perform, FailureCache.record_of_disabled failure henabled]
      exact hidle fun _ ↦ by simp [FailureCall.writes, henabled]
  | clear cache lookupType identifiers =>
    cases henabled : cache.policy.enabled with
    | true =>
      rw [FailureCall.perform, FailureCache.clear_state_of_enabled henabled]
      refine hpast.write (cache.key lookupType identifiers) (fun key ↦ ?_) fun key slot ↦ ?_
      · simp [FailureCall.writes, henabled]
      · exact MemoryStore.mem_removeSlot.trans (by simp [FailureCall.slot?])
    | false =>
      rw [FailureCall.perform, FailureCache.clear_of_disabled henabled]
      exact hidle fun _ ↦ by simp [FailureCall.writes, henabled]
  | purge =>
    exact hpast.sweep (fun _ ↦ rfl) (MemoryStore.sweeps_retainLive moment.monotonic store)

/-- The store after a history mirrors it. -/
theorem storeAfter (history : FailureHistory) : Mirrors history history.storeAfter := by
  have hrun : ∀ (rest past : FailureHistory) (store : MemoryStore), Mirrors past store →
      Mirrors (past ++ rest) (rest.foldl (fun store step ↦ step.2.perform step.1 store) store) := by
    intro rest
    induction rest with
    | nil =>
      intro past store hpast
      rw [List.append_nil]
      exact hpast
    | cons step rest ih =>
      intro past store hpast
      rw [List.append_cons]
      exact ih _ _ (hpast.perform step.1 step.2)
  exact hrun history [] MemoryStore.empty empty

end Mirrors

/-! ### Checks -/

theorem latestSlot?_eq_some_iff {slot : Slot} :
    latestSlot? key history = some slot ↔ ∃ made recorder lookupType failure identifiers,
      latestWrite? key history = some (made, .record recorder lookupType failure identifiers) ∧
        recorder.slotOf made lookupType failure identifiers = slot := by
  rw [latestSlot?, Option.bind_eq_some_iff]
  constructor
  · rintro ⟨⟨made, call⟩, hlatest, hslot⟩
    cases call with
    | record recorder lookupType failure identifiers =>
      exact ⟨made, recorder, lookupType, failure, identifiers, hlatest, Option.some.inj hslot⟩
    | _ => cases hslot
  · rintro ⟨made, recorder, lookupType, failure, identifiers, hlatest, rfl⟩
    exact ⟨_, hlatest, rfl⟩

variable {now : Moment}

/-- The latest write was made at a moment of the history. -/
theorem precedes_of_latestWrite? (htime : KeepsTime (history.map Prod.fst ++ [now]))
    (hlatest : latestWrite? key history = some step) :
    step.1.Precedes now ∧ step.1.IsDated := by
  have hstep : step ∈ history := (List.mem_filter.mp (List.mem_of_getLast? hlatest)).1
  have hmoment : step.1 ∈ history.map Prod.fst := List.mem_map_of_mem hstep
  exact ⟨(List.pairwise_append.mp htime.advancing).2.2 _ hmoment _ (.head _),
    htime.dated _ (List.mem_append_left _ hmoment)⟩

/-- A slot whose entry has not expired at the end is still in the store. -/
theorem mem_storeAfter {slot : Slot} (htime : KeepsTime (history.map Prod.fst ++ [now]))
    (hslot : latestSlot? key history = some slot)
    (hexpired : slot.entry.isExpiredAt now.wall = false) :
    (key, slot) ∈ history.storeAfter.slots ∧ slot.isLiveAt now.monotonic = true := by
  obtain ⟨made, recorder, lookupType, failure, identifiers, hlatest, rfl⟩ :=
    latestSlot?_eq_some_iff.mp hslot
  obtain ⟨hprecedes, hmade⟩ := precedes_of_latestWrite? htime hlatest
  have hnow : now.IsDated := htime.dated _ (List.mem_append_right _ (.head _))
  have hbefore : now.monotonic < made.monotonic + recorder.wholeLifetime failure := by
    refine Nat.lt_of_not_le fun hpassed ↦ ?_
    have htrue := (FailureCache.isExpiredAt_entryOf_iff lookupType identifiers hprecedes hmade
      hnow).mpr hpassed
    exact Bool.false_ne_true (hexpired.symm.trans htrue)
  have hlive := FailureCache.isLiveAt_slotOf lookupType identifiers hbefore
  refine ⟨?_, hlive⟩
  rcases (Mirrors.storeAfter history).complete key _ hslot with hmem | ⟨ended, hended, hdead⟩
  · exact hmem
  · have hearlier : ended.1.Precedes now := (List.pairwise_append.mp htime.advancing).2.2 _
      (List.mem_map_of_mem hended) _ (.head _)
    rw [Slot.isLiveAt_of_le hearlier.monotonic_le hlive] at hdead
    exact nomatch hdead

/-- The store answers with a live entry exactly if the latest write left a slot whose entry has not
expired. -/
theorem liveEntry?_storeAfter (htime : KeepsTime (history.map Prod.fst ++ [now])) (key : String)
    (entry : FailureEntry) :
    liveEntry? (MemoryStore.interface.get now.monotonic key history.storeAfter).1 now.wall =
        some entry ↔
      ∃ slot, latestSlot? key history = some slot ∧ slot.entry = entry ∧
        entry.isExpiredAt now.wall = false := by
  have hmirrors := Mirrors.storeAfter history
  have hanswer : (MemoryStore.interface.get now.monotonic key history.storeAfter).1 =
      .ok ((history.storeAfter.slotAt? key).bind fun slot ↦
        if slot.isLiveAt now.monotonic then some slot.entry else none) :=
    congrArg Except.ok (MemoryStore.get_eq now.monotonic key history.storeAfter)
  rw [liveEntry?_eq_some_iff, hanswer, Except.ok.injEq, Option.bind_eq_some_iff]
  constructor
  · rintro ⟨⟨slot, hslot, hfound⟩, hexpired⟩
    refine ⟨slot, hmirrors.sound key slot (MemoryStore.mem_of_slotAt? hslot), ?_, hexpired⟩
    split at hfound
    · exact Option.some.inj hfound
    · cases hfound
  · rintro ⟨slot, hslot, rfl, hexpired⟩
    obtain ⟨hmem, hlive⟩ := mem_storeAfter htime hslot hexpired
    obtain ⟨found, hfound⟩ := MemoryStore.slotAt?_of_mem hmem
    have hsame := hmirrors.sound key found (MemoryStore.mem_of_slotAt? hfound)
    obtain rfl : found = slot := Option.some.inj (hsame.symm.trans hslot)
    exact ⟨⟨found, hfound, if_pos hlive⟩, hexpired⟩

/-- What a check says after a history depends on the latest write under its key alone. -/
theorem check_eq_error_iff {cache : FailureCache} (henabled : cache.policy.enabled = true)
    (htime : KeepsTime (history.map Prod.fst ++ [now])) (lookupType : String)
    (identifiers : List String) (failure : CachedLookupFailure) :
    (cache.check MemoryStore.interface now lookupType identifiers history.storeAfter).value =
        .error failure ↔
      ∃ made recorder recordedType report recorded,
        latestWrite? (cache.key lookupType identifiers) history =
          some (made, .record recorder recordedType report recorded) ∧
        now.monotonic < made.monotonic + recorder.wholeLifetime report ∧
        failure.entry = recorder.entryOf made recordedType report recorded := by
  have hnow : now.IsDated := htime.dated _ (List.mem_append_right _ (.head _))
  have hexpired : ∀ {made recorder recordedType report recorded},
      latestWrite? (cache.key lookupType identifiers) history =
          some (made, .record recorder recordedType report recorded) →
        ((recorder.entryOf made recordedType report recorded).isExpiredAt now.wall = false ↔
          now.monotonic < made.monotonic + recorder.wholeLifetime report) := by
    intro made recorder recordedType report recorded hlatest
    obtain ⟨hprecedes, hmade⟩ := precedes_of_latestWrite? htime hlatest
    rw [← Bool.not_eq_true, FailureCache.isExpiredAt_entryOf_iff _ _ hprecedes hmade hnow,
      Nat.not_le]
  rw [FailureCache.check_eq_error_iff henabled, liveEntry?_storeAfter htime]
  constructor
  · rintro ⟨slot, hslot, hentry, hlive⟩
    obtain ⟨made, recorder, recordedType, report, recorded, hlatest, rfl⟩ :=
      latestSlot?_eq_some_iff.mp hslot
    rw [← hentry] at hlive
    exact ⟨made, recorder, recordedType, report, recorded, hlatest, (hexpired hlatest).mp hlive,
      hentry.symm⟩
  · rintro ⟨made, recorder, recordedType, report, recorded, hlatest, hbefore, hentry⟩
    refine ⟨_, latestSlot?_eq_some_iff.mpr ⟨made, recorder, recordedType, report, recorded, hlatest,
      rfl⟩, hentry.symm, ?_⟩
    rw [hentry]
    exact (hexpired hlatest).mpr hbefore

/-- A check says the same whether a call that writes nothing under its key was made or not. -/
theorem check_remove {cache : FailureCache} {lookupType : String} {identifiers : List String}
    (before after : FailureHistory)
    (htime : KeepsTime ((before ++ step :: after).map Prod.fst ++ [now]))
    (hwrites : step.2.writes (cache.key lookupType identifiers) = false) :
    (cache.check MemoryStore.interface now lookupType identifiers
        (before ++ after).storeAfter).value =
      (cache.check MemoryStore.interface now lookupType identifiers
        (before ++ step :: after).storeAfter).value := by
  by_cases hdisabled : cache.policy.enabled = false
  · rw [FailureCache.check_of_disabled hdisabled, FailureCache.check_of_disabled hdisabled]
  have henabled : cache.policy.enabled = true := Bool.of_not_eq_false hdisabled
  have hfewer : ((before ++ after).map Prod.fst ++ [now]).Sublist
      ((before ++ step :: after).map Prod.fst ++ [now]) :=
    (((List.sublist_cons_self step after).append_left before).map Prod.fst).append_right [now]
  have hsame : ∀ failure, (cache.check MemoryStore.interface now lookupType identifiers
      (before ++ after).storeAfter).value = .error failure ↔
        (cache.check MemoryStore.interface now lookupType identifiers
          (before ++ step :: after).storeAfter).value = .error failure := by
    intro failure
    rw [check_eq_error_iff henabled htime, check_eq_error_iff henabled (htime.sublist hfewer),
      latestWrite?_remove before after hwrites]
  cases hfull : (cache.check MemoryStore.interface now lookupType identifiers
      (before ++ step :: after).storeAfter).value with
  | error failure => exact (hsame failure).mpr hfull
  | ok done =>
    cases hshort : (cache.check MemoryStore.interface now lookupType identifiers
        (before ++ after).storeAfter).value with
    | error failure => exact nomatch hfull.symm.trans ((hsame failure).mp hshort)
    | ok other => rfl

/-- A check tells the latest record. Assumes: moments between which both clocks advance alike, at
dates of the calendar. After any history of any caches on one store, a check by a cache that is
switched on fails exactly if the latest call that wrote under its key recorded a failure and the
whole seconds of its lifetime have not passed. It fails with what was recorded. A call that writes
nothing under the key makes no difference to the check of any cache, wherever it stands in the
history. -/
theorem check_iff_recorded (history : FailureHistory) (now : Moment)
    (htime : KeepsTime (history.map Prod.fst ++ [now])) (cache : FailureCache)
    (lookupType : String) (identifiers : List String) :
    let key := cache.key lookupType identifiers
    let outcome (history : FailureHistory) :=
      (cache.check MemoryStore.interface now lookupType identifiers history.storeAfter).value
    (cache.policy.enabled = true →
      ((∃ failure, outcome history = .error failure) ↔
        ∃ made recorder recordedType report recorded,
          history.latestWrite? key =
            some (made, .record recorder recordedType report recorded) ∧
          now.monotonic < made.monotonic + recorder.wholeLifetime report)) ∧
    (∀ failure made recorder recordedType report recorded, outcome history = .error failure →
      history.latestWrite? key = some (made, .record recorder recordedType report recorded) →
      failure.entry.repository = recorder.repository ∧
        failure.entry.lookupType = recordedType ∧ failure.entry.identifiers = recorded ∧
        failure.entry.errorType = report.errorType ∧ failure.entry.message = report.message ∧
        failure.entry.httpStatus = report.httpStatus ∧
        failure.entry.category = classify report) ∧
    ∀ before step after, history = before ++ step :: after → step.2.writes key = false →
      outcome (before ++ after) = outcome history := by
  intro key outcome
  have hiff (henabled : cache.policy.enabled = true) :=
    check_eq_error_iff henabled htime lookupType identifiers
  refine ⟨fun henabled ↦ ⟨?_, ?_⟩, ?_, ?_⟩
  · rintro ⟨failure, hfails⟩
    obtain ⟨made, recorder, recordedType, report, recorded, hlatest, hbefore, -⟩ :=
      (hiff henabled failure).mp hfails
    exact ⟨made, recorder, recordedType, report, recorded, hlatest, hbefore⟩
  · rintro ⟨made, recorder, recordedType, report, recorded, hlatest, hbefore⟩
    exact ⟨_, (hiff henabled ⟨recorder.entryOf made recordedType report recorded⟩).mpr
      ⟨made, recorder, recordedType, report, recorded, hlatest, hbefore, rfl⟩⟩
  · intro failure made recorder recordedType report recorded hfails hlatest
    have henabled : cache.policy.enabled = true := FailureCache.enabled_of_check_eq_error hfails
    obtain ⟨_, _, _, _, _, hsame, -, hentry⟩ := (hiff henabled failure).mp hfails
    cases hlatest.symm.trans hsame
    rw [hentry]
    exact ⟨rfl, rfl, rfl, rfl, rfl, rfl, rfl⟩
  · rintro before step after rfl hwrites
    exact check_remove before after htime hwrites

/-- A moment at the beginning of a year. -/
def newYear : Moment :=
  ⟨0, ⟨Timestamp.ofCivil ⟨2024, 1, 1⟩ 0 0 0 0, 0⟩⟩

/-- A cache that remembers any failure for a second and a half. -/
def briefCache : FailureCache :=
  ⟨"products", ⟨true, Duration.ofMillis 1500, []⟩⟩

/-- A failure is recorded, and the store is purged within the second after that. -/
def briefHistory : FailureHistory :=
  [(newYear, .record briefCache "by_id" ⟨some 404, "RemoteServiceError", "gone"⟩ ["42"]),
    (newYear.later 999999999, .purge)]

theorem check_iff_recorded_within_second :
    KeepsTime (briefHistory.map Prod.fst ++ [newYear.later 999999999]) ∧
      ∃ failure, (briefCache.check MemoryStore.interface (newYear.later 999999999) "by_id" ["42"]
        briefHistory.storeAfter).value = .error failure ∧ failure.entry.message = "gone" := by
  have htime : KeepsTime (briefHistory.map Prod.fst ++ [newYear.later 999999999]) := by
    refine ⟨.cons (fun moment hmoment ↦ ?_) (.cons (fun moment hmoment ↦ ?_) (.cons nofun .nil)),
      fun moment hmoment ↦ ?_⟩
    · exact ⟨999999999, by simpa [briefHistory] using hmoment⟩
    · exact ⟨0, List.mem_singleton.mp hmoment⟩
    · have hmoments : moment = newYear ∨ moment = newYear.later 999999999 := by
        simpa [briefHistory] using hmoment
      rcases hmoments with rfl | rfl <;> rfl
  have hlatest : latestWrite? (briefCache.key "by_id" ["42"]) briefHistory =
      some (newYear, .record briefCache "by_id" ⟨some 404, "RemoteServiceError", "gone"⟩
        ["42"]) := by
    simp [latestWrite?, briefHistory, FailureCall.writes, briefCache]
  obtain ⟨hfails, hcarries, -⟩ :=
    check_iff_recorded briefHistory (newYear.later 999999999) htime briefCache "by_id" ["42"]
  obtain ⟨failure, hfailure⟩ := (hfails rfl).mpr ⟨_, _, _, _, _, hlatest, by decide⟩
  exact ⟨htime, failure, hfailure, (hcarries failure _ _ _ _ _ hfailure hlatest).2.2.2.2.1⟩

end FailureHistory

end ResourceLookup
