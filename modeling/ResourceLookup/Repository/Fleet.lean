import ResourceLookup.Repository.Lookup

/-!
# Repositories on one store

Any number of repositories may remember the failures of their lookups in one store inside the
process (`Fleet`). Each of them has a client and results of its own. What they share is the store
and the two clocks, and the time of day advances as the monotonic clock does.

They are called one after the other (`FleetCall`). A guarded lookup takes as much time as its hook,
which may do anything with its repository but turn the clock back (`SteadyFetch`).
-/

set_option autoImplicit false
set_option relaxedAutoImplicit false

namespace ResourceLookup

/-- What a guarded lookup asks for. -/
structure Lookup where
  lookupType : String
  ids : List String
  deriving DecidableEq

namespace Lookup

/-- The identifiers of the lookup as they are looked up. -/
def requested (lookup : Lookup) : List String := normalizeIds lookup.ids

/-- The key under which a failure cache remembers the lookup. -/
def key (lookup : Lookup) (failures : FailureCache) : String :=
  failures.key lookup.lookupType lookup.requested

end Lookup

/-- A hook that does not turn the clock back. -/
structure SteadyFetch where
  fetch : Fetch
  steady : ∀ ids repository, repository.session.now ≤ (fetch ids repository).2.session.now

/-- A repository with its failure cache. -/
structure FleetMember where
  repository : Repository
  failures : FailureCache

/-- A repository with the failure cache of its service and its settings. -/
def FleetMember.ofRepository (repository : Repository) : FleetMember :=
  ⟨repository, ⟨repository.name, repository.session.client.settings.failurePolicy⟩⟩

/-- Repositories on one store inside the process, with the monotonic clock and the time of day at
its beginning. -/
structure Fleet (ι : Type) where
  members : ι → FleetMember
  store : MemoryStore
  now : Nat
  epoch : Timestamp

namespace Fleet

variable {ι : Type}

/-- The time of day, which advances as the monotonic clock does. -/
def wall (fleet : Fleet ι) : Repository.WallClock := fun now ↦
  { fleet.epoch with localNanos := fleet.epoch.localNanos + now }

/-- What both clocks tell at an instant. -/
def momentAt (fleet : Fleet ι) (instant : Nat) : Moment := ⟨instant, fleet.wall instant⟩

/-- The repository of a member, whose client reads the clock of all. -/
def repository (fleet : Fleet ι) (member : ι) : Repository :=
  let repository := (fleet.members member).repository
  { repository with session := { repository.session with now := fleet.now } }

/-- A guarded lookup of a member. -/
def find (fleet : Fleet ι) (member : ι) (hook : SteadyFetch) (lookup : Lookup) :
    Except RemoteError (List Resource) × Repository × MemoryStore :=
  (fleet.repository member).findByIdsGuarded (some (fleet.members member).failures)
    MemoryStore.interface fleet.wall hook.fetch lookup.lookupType lookup.ids fleet.store

/-- A member forgets the failure of a lookup. -/
def clear (fleet : Fleet ι) (member : ι) (lookup : Lookup) : Repository × MemoryStore :=
  (fleet.repository member).clearCachedFailure (some (fleet.members member).failures)
    MemoryStore.interface lookup.lookupType lookup.ids fleet.store

/-- What is there after a call of a member that left its repository and the store as given. -/
def keep [DecidableEq ι] (fleet : Fleet ι) (member : ι) (left : Repository × MemoryStore) :
    Fleet ι :=
  { fleet with
    members := fun other ↦
      if other = member then { fleet.members other with repository := left.1 }
      else fleet.members other
    store := left.2
    now := left.1.session.now }

end Fleet

/-- A call of a member of a fleet, or time that passes. -/
inductive FleetCall (ι : Type) where
  | wait (elapsed : Nat)
  | find (member : ι) (hook : SteadyFetch) (lookup : Lookup)
  | clear (member : ι) (lookup : Lookup)

namespace Fleet

variable {ι : Type} [DecidableEq ι]

/-- What is there after a call. -/
def take (fleet : Fleet ι) : FleetCall ι → Fleet ι
  | .wait elapsed => { fleet with now := fleet.now + elapsed }
  | .find member hook lookup => fleet.keep member (fleet.find member hook lookup).2
  | .clear member lookup => fleet.keep member (fleet.clear member lookup)

/-- What is there after calls in turn. -/
def run (fleet : Fleet ι) (calls : List (FleetCall ι)) : Fleet ι :=
  calls.foldl take fleet

end Fleet

end ResourceLookup
