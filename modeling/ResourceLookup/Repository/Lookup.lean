import ResourceLookup.Client.Call
import ResourceLookup.Failure.Cache
import ResourceLookup.Repository.ResultCache

/-!
# Lookups

A repository answers lookups by identifier from its results and fetches what is missing with a hook
of its own (`Fetch`), which may do anything with the repository's state. `Repository.findByIds`
normalizes the identifiers, fetches those that are not there, and lists the resources that are there
afterwards in the order asked for. `Repository.findByIdsGuarded` consults the failure cache before
it fetches anything and remembers the failures of the remote service.
-/

set_option autoImplicit false
set_option relaxedAutoImplicit false

namespace ResourceLookup

/-- A repository at work: its client and the resources fetched so far. -/
structure Repository where
  session : Session
  results : ResultCache

/-- Fetches the resources with the given identifiers into the results. -/
abbrev Fetch := List String → Repository → Except RemoteError Unit × Repository

/-- Identifiers without white space around them, blank ones and those in `seen` left out, each once
in the order of its first occurrence. -/
def distinctIds (seen : List String) : List String → List String
  | [] => []
  | id :: rest =>
    let trimmed := Text.trim id
    if trimmed = "" || seen.contains trimmed then distinctIds seen rest
    else trimmed :: distinctIds (trimmed :: seen) rest

/-- The identifiers of a lookup: trimmed, not blank, each once in the order of its first
occurrence. -/
def normalizeIds (ids : List String) : List String :=
  distinctIds [] ids

namespace Repository

/-- A repository without results on top of a client. -/
def start (session : Session) : Repository := ⟨session, ResultCache.empty⟩

/-- The name of the repository in reports. -/
def name (repository : Repository) : String :=
  repository.session.client.service

/-- The repository with one more thing done. -/
def record (repository : Repository) (activity : Activity) : Repository :=
  { repository with session := repository.session.record activity }

/-- The repository with an event reported. -/
def report (repository : Repository) (event : Event) : Repository :=
  { repository with session := repository.session.report event }

/-- The repository with events reported. -/
def reportAll (repository : Repository) (events : List Event) : Repository :=
  { repository with session := repository.session.reportAll events }

/-- The identifiers whose resources are not there. -/
def missing (repository : Repository) (ids : List String) : List String :=
  ids.filter fun id ↦ !repository.results.contains id

/-- The resources that are there, in the order of their identifiers. -/
def present (repository : Repository) (ids : List String) : List Resource :=
  ids.filterMap repository.results.find?

/-- The failure of the caller's own code as a failure of the service. -/
def lookupFailure (client : Client) (chain : CauseChain) : ServiceError :=
  { ServiceError.madeUp client.service client.baseUri .badGateway [chain.joined] with
    source := some chain }

/-- The failure of a fetch as the failure of a lookup. -/
def wrapFailure (error : RemoteError) (repository : Repository) : RemoteError × Repository :=
  match error with
  | .other chain =>
    (.service (lookupFailure repository.session.client chain), repository.report .lookupFailed)
  | error => (error, repository)

/-- The resources with the given identifiers; those that are not there are fetched. -/
def findByIds (fetch : Fetch) (ids : List String) (repository : Repository) :
    Except RemoteError (List Resource) × Repository :=
  let requested := normalizeIds ids
  let wanted := repository.missing requested
  if wanted.isEmpty then (.ok (repository.present requested), repository)
  else
    match fetch wanted ((repository.report .fetchingUncached).record (.fetched wanted)) with
    | (.error error, repository) =>
      let (error, repository) := wrapFailure error repository
      (.error error, repository)
    | (.ok (), repository) => (.ok (repository.present requested), repository)

/-- The resource with the given identifier, fetched if it is not there. -/
def findById (fetch : Fetch) (id : String) (repository : Repository) :
    Except RemoteError (Option Resource) × Repository :=
  match repository.findByIds fetch [id] with
  | (.error error, repository) => (.error error, repository)
  | (.ok resources, repository) => (.ok resources.head?, repository)

/-- The resource with the given identifier, if it is there. -/
def peek (repository : Repository) (id : String) : Option Resource :=
  repository.results.find? (Text.trim id)

/-- The time of day for every instant of the monotonic clock. -/
abbrev WallClock := Nat → Timestamp

/-- A reading of both clocks. -/
def moment (repository : Repository) (wall : WallClock) : Moment :=
  ⟨repository.session.now, wall repository.session.now⟩

/-- Remembers the failure of a lookup if it is one of the remote service. -/
def remember {σ : Type} (cache : FailureCache) (store : FailureStore σ) (wall : WallClock)
    (lookupType : String) (requested : List String)
    (result : Except RemoteError (List Resource)) (repository : Repository) (state : σ) :
    Repository × σ :=
  match result with
  | .error (.service error) =>
    let recorded := cache.record store (repository.moment wall) lookupType error.report requested
      state
    (repository.reportAll recorded.events, recorded.state)
  | _ => (repository, state)

/-- A lookup guarded by a failure cache: it fails at once if it failed recently, and its failure is
remembered. -/
def findGuarded {σ : Type} (cache : FailureCache) (store : FailureStore σ) (wall : WallClock)
    (fetch : Fetch) (lookupType : String) (ids : List String) (repository : Repository)
    (state : σ) : Except RemoteError (List Resource) × Repository × σ :=
  let requested := normalizeIds ids
  let checked := cache.check store (repository.moment wall) lookupType requested state
  let repository := repository.reportAll checked.events
  match checked.value with
  | .error failure => (.error (.cachedFailure failure), repository, checked.state)
  | .ok () =>
    let (result, repository) := repository.findByIds fetch ids
    let (repository, state) := remember cache store wall lookupType requested result repository
      checked.state
    (result, repository, state)

/-- A lookup guarded by the failure cache, if there is one and something has to be fetched. -/
def findByIdsGuarded {σ : Type} (cache : Option FailureCache) (store : FailureStore σ)
    (wall : WallClock) (fetch : Fetch) (lookupType : String) (ids : List String)
    (repository : Repository) (state : σ) :
    Except RemoteError (List Resource) × Repository × σ :=
  match cache with
  | none =>
    let (result, repository) := repository.findByIds fetch ids
    (result, repository, state)
  | some cache =>
    if (repository.missing (normalizeIds ids)).isEmpty then
      let (result, repository) := repository.findByIds fetch ids
      (result, repository, state)
    else findGuarded cache store wall fetch lookupType ids repository state

/-- Forgets the failure of a lookup. -/
def clearCachedFailure {σ : Type} (cache : Option FailureCache) (store : FailureStore σ)
    (lookupType : String) (ids : List String) (repository : Repository) (state : σ) :
    Repository × σ :=
  match cache with
  | none => (repository, state)
  | some cache =>
    let cleared := cache.clear store lookupType (normalizeIds ids) state
    (repository.reportAll cleared.events, cleared.state)

/-- Adds all primary resources of a document to the results, and counts them. -/
def cacheDocument (document : Document) (repository : Repository) : Nat × Repository :=
  let (count, results) := repository.results.addDocument document
  (count, { repository with results := results })

/-- Adds the single primary resource of a document to the results, and tells whether there is
one. -/
def cacheSingle (document : Document) (repository : Repository) : Bool × Repository :=
  let (added, results) := repository.results.addSingle document
  (added, { repository with results := results })

/-- Drops all results. -/
def reset (repository : Repository) : Repository :=
  { repository with results := ResultCache.empty }

/-- Runs an operation of the client. -/
def withSession {α : Type} (operation : Session → α × Session) (repository : Repository) :
    α × Repository :=
  let (result, session) := operation repository.session
  (result, { repository with session := session })

end Repository

end ResourceLookup
