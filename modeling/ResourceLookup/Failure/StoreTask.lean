import ResourceLookup.Failure.Store

/-!
# Tasks on the store inside the process

Several tasks may work on the store inside the process at a time, each at one operation
(`StoreRequest`). An operation is a sequence of single steps, and between two steps of one task
others may take theirs. `StoreTask` tells how far a task has come and `StoreTask.step` is its next
step. The clock is a step of its own: a task that reads, puts or purges keeps what it read there,
and the clock may be later by the time it uses it.

A `SharedStore` is the clock, the store and the tasks. A schedule is a list of turns, in each of
which time passes or a task takes its step (`SharedStore.run`). A task that has the store to itself
does what the operation of the store does (`StoreTask.alone_requested`).
-/

set_option autoImplicit false
set_option relaxedAutoImplicit false

namespace ResourceLookup

/-- An operation on the store inside the process. -/
inductive StoreRequest where
  | get (key : String)
  | put (key : String) (entry : FailureEntry) (ttl : Duration)
  | delete (key : String)
  | purge
  deriving DecidableEq

/-- How far a task has come with its operation: the step that it takes next, with what it has read
from the clock, or its answer. -/
inductive StoreTask where
  | requested (request : StoreRequest)
  | looking (read : Nat) (key : String)
  | dropping (read : Nat) (key : String)
  | answered (found : Option FailureEntry)
  | inserting (key : String) (slot : Slot)
  | counting (read : Nat)
  | sweeping (read before : Nat)
  | recounting (before : Nat)
  | purged (dropped : Nat)
  | finished
  deriving DecidableEq

namespace StoreTask

/-- How a task goes on that has looked under a key. -/
def afterLook (read : Nat) (key : String) : MemoryStore.Found → StoreTask
  | .live entry => .answered (some entry)
  | .expired => .dropping read key
  | .absent => .answered none

/-- The next step of a task at an instant, and what it does to the store; a task that is done stays
as it is. -/
def step (now : Nat) (store : MemoryStore) : StoreTask → StoreTask × MemoryStore
  | .requested (.get key) => (.looking now key, store)
  | .requested (.put key entry ttl) =>
    (.inserting key ⟨entry, MemoryStore.expiryOf now ttl⟩, store)
  | .requested (.delete key) => (.finished, store.removeSlot key)
  | .requested .purge => (.counting now, store)
  | .looking read key => (afterLook read key (store.look read key), store)
  | .dropping read key => (.answered none, store.removeIfExpired read key)
  | .inserting key slot => (.finished, store.insertSlot key slot)
  | .counting read => (.sweeping read store.size, store)
  | .sweeping read before => (.recounting before, store.retainLive read)
  | .recounting before => (.purged (before - store.size), store)
  | .answered found => (.answered found, store)
  | .purged dropped => (.purged dropped, store)
  | .finished => (.finished, store)

/-- So many steps of a task without any other task in between, all at one instant. -/
def alone (now : Nat) : Nat → StoreTask × MemoryStore → StoreTask × MemoryStore
  | 0, reached => reached
  | steps + 1, (task, store) => alone now steps (task.step now store)

/-- A task that has the store to itself is done after four steps, with the answer and the effect of
the operation. -/
theorem alone_requested (now : Nat) (store : MemoryStore) (request : StoreRequest) :
    alone now 4 (.requested request, store) =
      match request with
      | .get key => (.answered (store.get now key).1, (store.get now key).2)
      | .put key entry ttl => (.finished, store.put now key entry ttl)
      | .delete key => (.finished, store.removeSlot key)
      | .purge => (.purged (store.purgeExpired now).1, (store.purgeExpired now).2) := by
  cases request with
  | get key =>
    simp only [alone, step, MemoryStore.get]
    cases store.look now key with
    | live entry => rfl
    | expired => rfl
    | absent => rfl
  | _ => rfl

end StoreTask

/-- A turn of a schedule: time passes, or a task takes its next step. -/
inductive Turn where
  | wait (elapsed : Nat)
  | run (task : Nat)
  deriving DecidableEq

/-- The store inside the process with the tasks at work on it, and the monotonic clock. -/
structure SharedStore where
  now : Nat
  store : MemoryStore
  tasks : List StoreTask
  deriving DecidableEq

namespace SharedStore

/-- A store without entries and tasks that have not begun. -/
def start (now : Nat) (requests : List StoreRequest) : SharedStore :=
  ⟨now, MemoryStore.empty, requests.map .requested⟩

/-- What is there after a turn; the turn of a task that does not exist changes nothing. -/
def take (shared : SharedStore) : Turn → SharedStore
  | .wait elapsed => { shared with now := shared.now + elapsed }
  | .run index =>
    match shared.tasks[index]? with
    | none => shared
    | some task =>
      let (task, store) := task.step shared.now shared.store
      { shared with store := store, tasks := shared.tasks.set index task }

/-- What is there after all turns of a schedule. -/
def run (shared : SharedStore) (schedule : List Turn) : SharedStore :=
  schedule.foldl take shared

end SharedStore

end ResourceLookup
