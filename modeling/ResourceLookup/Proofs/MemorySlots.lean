import ResourceLookup.Failure.Cache

/-!
# The slots of the store inside the process

Which slots are in the store after each of its operations. Putting and deleting change what is under
one key only. Reading and purging take slots away, but none that is live at the time
(`MemoryStore.Sweeps`). What reading finds is the slot under the key, if it is live
(`MemoryStore.get_eq`), and reading under one key changes nothing under another
(`MemoryStore.slotAt?_get_of_ne`).
-/

set_option autoImplicit false
set_option relaxedAutoImplicit false

namespace ResourceLookup

namespace Slot

variable {slot : Slot} {now later : Nat}

theorem isLiveAt_iff :
    slot.isLiveAt now = true ↔ ∀ instant, slot.expiresAt = some instant → now < instant := by
  rw [isLiveAt]
  cases slot.expiresAt with
  | none => simp
  | some instant => simp

/-- A slot that has ended stays so. -/
theorem isLiveAt_of_le (hlater : now ≤ later) (hlive : slot.isLiveAt later = true) :
    slot.isLiveAt now = true := by
  rw [isLiveAt_iff] at hlive ⊢
  exact fun instant hinstant ↦ Nat.lt_of_le_of_lt hlater (hlive instant hinstant)

end Slot

namespace MemoryStore

variable {store before after : MemoryStore} {now : Nat} {key other : String} {slot old : Slot}

@[simp] theorem not_mem_empty : (key, slot) ∉ empty.slots := List.not_mem_nil

theorem mem_insertSlot :
    (other, old) ∈ (store.insertSlot key slot).slots ↔
      (other, old) ∈ store.slots ∧ other ≠ key ∨ other = key ∧ old = slot := by
  simp [insertSlot]

theorem mem_removeSlot :
    (other, old) ∈ (store.removeSlot key).slots ↔ (other, old) ∈ store.slots ∧ other ≠ key := by
  simp [removeSlot]

/-! ### Slots that go by themselves -/

/-- Slots were taken away, but none that is live. -/
structure Sweeps (now : Nat) (before after : MemoryStore) : Prop where
  taken : ∀ entry ∈ after.slots, entry ∈ before.slots
  kept : ∀ entry ∈ before.slots, entry.2.isLiveAt now = true → entry ∈ after.slots

theorem Sweeps.refl (now : Nat) (store : MemoryStore) : Sweeps now store store :=
  ⟨fun _ hentry ↦ hentry, fun _ hentry _ ↦ hentry⟩

/-- What was live earlier includes what is live now. -/
theorem Sweeps.mono {read : Nat} (hread : read ≤ now) (hsweeps : Sweeps read before after) :
    Sweeps now before after where
  taken := hsweeps.taken
  kept entry hentry hlive := hsweeps.kept entry hentry (Slot.isLiveAt_of_le hread hlive)

/-- Purging takes away no live slot. -/
theorem sweeps_retainLive (now : Nat) (store : MemoryStore) :
    Sweeps now store (store.retainLive now) where
  taken _ hentry := (List.mem_filter.mp hentry).1
  kept _ hentry hlive := List.mem_filter.mpr ⟨hentry, hlive⟩

theorem sweeps_removeIfExpired (now : Nat) (key : String) (store : MemoryStore) :
    Sweeps now store (store.removeIfExpired now key) where
  taken _ hentry := (List.mem_filter.mp hentry).1
  kept _ hentry hlive := List.mem_filter.mpr ⟨hentry, by simp [hlive]⟩

/-- Reading takes away no live slot. -/
theorem sweeps_get (now : Nat) (key : String) (store : MemoryStore) :
    Sweeps now store (store.get now key).2 := by
  unfold get
  split
  · exact .refl now store
  · exact .refl now store
  · exact sweeps_removeIfExpired now key store

/-! ### Reading -/

theorem mem_of_slotAt? (hslot : store.slotAt? key = some slot) : (key, slot) ∈ store.slots := by
  obtain ⟨⟨found, _⟩, hfound, rfl⟩ := Option.map_eq_some_iff.mp hslot
  have hkey : found = key := by simpa using List.find?_some hfound
  rw [← hkey]
  exact List.mem_of_find?_eq_some hfound

theorem slotAt?_of_mem (hmem : (key, slot) ∈ store.slots) :
    ∃ found, store.slotAt? key = some found := by
  rw [← Option.isSome_iff_exists, slotAt?, Option.isSome_map, List.find?_isSome]
  exact ⟨(key, slot), hmem, by simp⟩

theorem look_eq_live_iff {entry : FailureEntry} :
    store.look now key = .live entry ↔
      ∃ slot, store.slotAt? key = some slot ∧ slot.isLiveAt now = true ∧ slot.entry = entry := by
  rw [look]
  cases store.slotAt? key with
  | none => simp
  | some slot => cases hlive : slot.isLiveAt now <;> simp [hlive]

/-- Reading finds the entry of the slot under the key, if it is live. -/
theorem get_eq (now : Nat) (key : String) (store : MemoryStore) :
    (store.get now key).1 =
      (store.slotAt? key).bind fun slot ↦ if slot.isLiveAt now then some slot.entry else none := by
  rw [get, look]
  cases store.slotAt? key with
  | none => rfl
  | some slot =>
    simp only [Option.bind_some]
    cases slot.isLiveAt now <;> rfl

/-! ### The slot under a key -/

/-- Taking away slots under other keys changes nothing under a key. -/
theorem find?_filter_of_keeps {slots : List (String × Slot)} {keeps : String × Slot → Bool}
    (hkeeps : ∀ slot, keeps (other, slot) = true) :
    (slots.filter keeps).find? (fun (found, _) ↦ found == other) =
      slots.find? fun (found, _) ↦ found == other := by
  rw [List.find?_filter]
  congr 1
  funext ⟨found, slot⟩
  by_cases hfound : found = other
  · simp [hfound, hkeeps]
  · simp [hfound]

theorem slotAt?_insertSlot (store : MemoryStore) (key other : String) (slot : Slot) :
    (store.insertSlot key slot).slotAt? other =
      if key = other then some slot else store.slotAt? other := by
  rw [slotAt?, insertSlot, List.find?_append]
  by_cases hkey : key = other
  · subst hkey
    have hnone : (store.slots.filter fun (found, _) ↦ found != key).find?
        (fun (found, _) ↦ found == key) = none := by
      simp
    rw [hnone]
    simp
  · rw [find?_filter_of_keeps fun slot ↦ by simpa using Ne.symm hkey]
    simp [hkey, slotAt?]

theorem slotAt?_removeSlot (store : MemoryStore) (key other : String) :
    (store.removeSlot key).slotAt? other =
      if key = other then none else store.slotAt? other := by
  rw [slotAt?, removeSlot]
  by_cases hkey : key = other
  · simp [hkey]
  · rw [find?_filter_of_keeps fun slot ↦ by simpa using Ne.symm hkey]
    simp [hkey, slotAt?]

/-- Reading under a key changes nothing under another. -/
theorem slotAt?_get_of_ne (now : Nat) (store : MemoryStore) (hkey : key ≠ other) :
    (store.get now key).2.slotAt? other = store.slotAt? other := by
  unfold get
  split
  · rfl
  · rfl
  · have hkeeps : ∀ slot : Slot, (other != key || slot.isLiveAt now) = true := by
      intro slot
      simp [Ne.symm hkey]
    rw [slotAt?, removeIfExpired, find?_filter_of_keeps hkeeps]
    rfl

/-- Reading a live entry changes nothing. -/
theorem get_of_some {entry : FailureEntry} (hfound : (store.get now key).1 = some entry) :
    (store.get now key).2 = store := by
  unfold get at hfound ⊢
  split
  · rfl
  · rfl
  · next hlook =>
    rw [hlook] at hfound
    exact nomatch hfound

theorem get_of_absent (now : Nat) (habsent : store.slotAt? key = none) :
    store.get now key = (none, store) := by
  rw [get, look, habsent]

theorem get_of_live (hslot : store.slotAt? key = some slot) (hlive : slot.isLiveAt now = true) :
    store.get now key = (some slot.entry, store) := by
  rw [get, look, hslot]
  simp only [hlive, if_true]

end MemoryStore

end ResourceLookup
