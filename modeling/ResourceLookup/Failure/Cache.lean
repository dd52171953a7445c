import ResourceLookup.Event
import ResourceLookup.Failure.Classification
import ResourceLookup.Failure.Key
import ResourceLookup.Failure.Policy
import ResourceLookup.Failure.Store
import ResourceLookup.Text.Quoted

/-!
# The failure cache

A `FailureCache` remembers the failed lookups of one repository in a store: `FailureCache.check`
fails if the lookup failed within its time, `FailureCache.record` remembers a failure for the time
of its category, and `FailureCache.clear` forgets it. A store that fails is never the caller's
problem: what cannot be read is taken as not there, and what cannot be written is let go, with an
event.

Every operation gives its result, what it reports, and the state of the store after it. Times are
read from a `Moment`, one reading of both clocks.
-/

set_option autoImplicit false
set_option relaxedAutoImplicit false

namespace ResourceLookup

/-- A reading of the two clocks: nanoseconds of the monotonic clock, and the time of day. -/
structure Moment where
  monotonic : Nat
  wall : Timestamp
  deriving DecidableEq

/-- The failures of one repository. -/
structure FailureCache where
  repository : String
  policy : FailurePolicy
  deriving DecidableEq

/-- The result of an operation on a store: its value, what it reports, and the state after it. -/
structure Observed (α σ : Type) where
  value : α
  events : List Event
  state : σ

namespace FailureCache

/-- The key of a lookup of the repository. -/
def key (cache : FailureCache) (lookupType : String) (identifiers : List String) : String :=
  lookupKey cache.repository lookupType identifiers

/-- Fails if the lookup failed and its time is not over. -/
def check {σ : Type} (cache : FailureCache) (store : FailureStore σ) (moment : Moment)
    (lookupType : String) (identifiers : List String) (state : σ) :
    Observed (Except CachedLookupFailure Unit) σ :=
  if !cache.policy.enabled then ⟨.ok (), [], state⟩
  else
    match store.get moment.monotonic (cache.key lookupType identifiers) state with
    | (.error _, state) => ⟨.ok (), [.failureReadFailed], state⟩
    | (.ok none, state) => ⟨.ok (), [], state⟩
    | (.ok (some entry), state) =>
      if entry.isExpiredAt moment.wall then ⟨.ok (), [], state⟩
      else ⟨.error ⟨entry⟩, [.failureHit], state⟩

/-- The entry of a failure. -/
def entryOf (cache : FailureCache) (moment : Moment) (lookupType : String)
    (failure : FailureReport) (identifiers : List String) : FailureEntry :=
  let category := classify failure
  ⟨moment.wall, cache.repository, lookupType, identifiers, failure.errorType, failure.message,
    failure.httpStatus, category, (cache.policy.ttlFor category).seconds⟩

/-- Remembers a failure for the time of its category, in place of any other of the same lookup. -/
def record {σ : Type} (cache : FailureCache) (store : FailureStore σ) (moment : Moment)
    (lookupType : String) (failure : FailureReport) (identifiers : List String) (state : σ) :
    Observed FailureCategory σ :=
  let category := classify failure
  if !cache.policy.enabled then ⟨category, [], state⟩
  else
    match store.put moment.monotonic (cache.key lookupType identifiers)
        (cache.entryOf moment lookupType failure identifiers) (cache.policy.ttlFor category)
        state with
    | (.error _, state) => ⟨category, [.failureNotRecorded], state⟩
    | (.ok (), state) => ⟨category, [.failureRecorded], state⟩

/-- Forgets the failure of a lookup. -/
def clear {σ : Type} (cache : FailureCache) (store : FailureStore σ) (lookupType : String)
    (identifiers : List String) (state : σ) : Observed Unit σ :=
  if !cache.policy.enabled then ⟨(), [], state⟩
  else
    match store.delete (cache.key lookupType identifiers) state with
    | (.error _, state) => ⟨(), [.failureNotCleared], state⟩
    | (.ok (), state) => ⟨(), [], state⟩

/-- The cache in diagnostic texts. -/
def diagnostic (cache : FailureCache) : String :=
  "FailureCache \x7b repository: " ++ Text.quoted cache.repository ++ ", config: " ++
    cache.policy.diagnostic ++ ", .. \x7d"

end FailureCache

end ResourceLookup
