import ResourceLookup.Failure.Cause
import ResourceLookup.Failure.Entry

/-!
# Stores of remembered failures

A `FailureStore` keeps entries under keys for a time; any of its operations may fail. It is given by
what its operations do to a state of some type, so that any store can stand in its place.

`MemoryStore` is the store inside the process. Each entry sits in a slot that ends at an instant of
the monotonic clock, or never if that instant is beyond the clock. A slot is live before its end.
Reading drops a slot that has ended, and `MemoryStore.purgeExpired` drops all of them. The
operations are put together from single steps on the map (`insertSlot`, `removeSlot`, `look`,
`removeIfExpired`, `retainLive`).
-/

set_option autoImplicit false
set_option relaxedAutoImplicit false

namespace ResourceLookup

/-- Why an operation of a store failed. -/
inductive StoreError where
  | backend (cause : CauseChain)
  | malformedEntry (reason : String)
  deriving DecidableEq

/-- The wording of the failure of a store. -/
def StoreError.message : StoreError → String
  | .backend cause => "failure store backend error: " ++ cause.text
  | .malformedEntry reason => "failure store entry is malformed: " ++ reason

/-- A store whose state is a value of `σ`. Reading and writing are given the instant at which they
happen. -/
structure FailureStore (σ : Type) where
  get : Nat → String → σ → Except StoreError (Option FailureEntry) × σ
  put : Nat → String → FailureEntry → Duration → σ → Except StoreError Unit × σ
  delete : String → σ → Except StoreError Unit × σ

/-- An entry and the instant at which it ends; without one it never ends. -/
structure Slot where
  entry : FailureEntry
  expiresAt : Option Nat
  deriving DecidableEq

/-- Whether a slot has not ended at an instant. -/
def Slot.isLiveAt (slot : Slot) (now : Nat) : Bool :=
  match slot.expiresAt with
  | some instant => now < instant
  | none => true

/-- The slots of the store inside the process, at most one for each key. -/
structure MemoryStore where
  slots : List (String × Slot)
  deriving DecidableEq

namespace MemoryStore

/-- A store without entries. -/
def empty : MemoryStore := ⟨[]⟩

/-- The number of slots, those that have ended included. -/
def size (store : MemoryStore) : Nat := store.slots.length

/-- Whether there is no slot. -/
def isEmpty (store : MemoryStore) : Bool := store.slots.isEmpty

/-- The slot under a key. -/
def slotAt? (store : MemoryStore) (key : String) : Option Slot :=
  (store.slots.find? fun (other, _) ↦ other == key).map (·.2)

/-- The first instant that the monotonic clock cannot tell, in nanoseconds. -/
def clockLimit : Nat := Nat.pow 2 63 * nanosPerSecond

/-- The instant at the end of a lifetime, if the clock can tell it. -/
def expiryOf (now : Nat) (ttl : Duration) : Option Nat :=
  if now + ttl.nanos < clockLimit then some (now + ttl.nanos) else none

/-! ### Steps -/

/-- Puts a slot under a key, in place of any other. -/
def insertSlot (key : String) (slot : Slot) (store : MemoryStore) : MemoryStore :=
  ⟨store.slots.filter (fun (other, _) ↦ other != key) ++ [(key, slot)]⟩

/-- Removes the slot under a key. -/
def removeSlot (key : String) (store : MemoryStore) : MemoryStore :=
  ⟨store.slots.filter fun (other, _) ↦ other != key⟩

/-- What is found under a key. -/
inductive Found where
  | live (entry : FailureEntry)
  | expired
  | absent
  deriving DecidableEq

/-- Looks under a key at an instant. -/
def look (now : Nat) (key : String) (store : MemoryStore) : Found :=
  match store.slotAt? key with
  | none => .absent
  | some slot => if slot.isLiveAt now then .live slot.entry else .expired

/-- Removes the slot under a key if it has ended at an instant. -/
def removeIfExpired (now : Nat) (key : String) (store : MemoryStore) : MemoryStore :=
  ⟨store.slots.filter fun (other, slot) ↦ other != key || slot.isLiveAt now⟩

/-- Keeps the slots that have not ended at an instant. -/
def retainLive (now : Nat) (store : MemoryStore) : MemoryStore :=
  ⟨store.slots.filter fun (_, slot) ↦ slot.isLiveAt now⟩

/-! ### Operations -/

/-- The live entry under a key; a slot that has ended is dropped. -/
def get (now : Nat) (key : String) (store : MemoryStore) : Option FailureEntry × MemoryStore :=
  match store.look now key with
  | .live entry => (some entry, store)
  | .absent => (none, store)
  | .expired => (none, store.removeIfExpired now key)

/-- Keeps an entry under a key for a lifetime. -/
def put (now : Nat) (key : String) (entry : FailureEntry) (ttl : Duration) (store : MemoryStore) :
    MemoryStore :=
  store.insertSlot key ⟨entry, expiryOf now ttl⟩

/-- Drops all slots that have ended, and counts them. -/
def purgeExpired (now : Nat) (store : MemoryStore) : Nat × MemoryStore :=
  let kept := store.retainLive now
  (store.size - kept.size, kept)

/-- The store inside the process; its operations never fail. -/
def interface : FailureStore MemoryStore where
  get now key store := (.ok (store.get now key).1, (store.get now key).2)
  put now key entry ttl store := (.ok (), store.put now key entry ttl)
  delete key store := (.ok (), store.removeSlot key)

end MemoryStore

/-- The operations of a store. -/
inductive StoreOperation where
  | get
  | put
  | delete
  deriving DecidableEq

/-- A store some of whose operations fail with the given error and do nothing. -/
def FailureStore.withBroken {σ : Type} (store : FailureStore σ) (broken : List StoreOperation)
    (error : StoreError) : FailureStore σ where
  get now key state :=
    if broken.contains .get then (.error error, state) else store.get now key state
  put now key entry ttl state :=
    if broken.contains .put then (.error error, state) else store.put now key entry ttl state
  delete key state :=
    if broken.contains .delete then (.error error, state) else store.delete key state

end ResourceLookup
