import ResourceLookup.Repository.Lookup

/-!
# Ways to fetch

The usual ways in which a repository fetches resources by identifier (`FetchPlan`): with the
identifiers as the parameter of a query, in the address of one GET request, in the body of one POST
request, or one by one. `FetchPlan.fetch` is the hook that a plan gives. A recoverable error brings
nothing and is no failure.
-/

set_option autoImplicit false
set_option relaxedAutoImplicit false

namespace ResourceLookup

/-- How a repository fetches resources from below a path. -/
inductive FetchPlan where
  | query (path : String)
  | address (path : String)
  | body (path : String)
  | oneByOne (path : String)
  | nothing
  | failing (cause : CauseChain)

namespace FetchPlan

/-- The name of the parameter that carries identifiers. -/
def idParameter : String := "filter[id]"

/-- Identifiers in one text, with commas. -/
def joinIds (ids : List String) : String :=
  String.intercalate "," ids

/-- The end of a fetch that failed. -/
def failed (error : RemoteError) (repository : Repository) :
    Except RemoteError Unit × Repository :=
  (.error error, repository)

/-- The end of a fetch with all resources of its document kept. -/
def keepAll (response : Response) (repository : Repository) :
    Except RemoteError Unit × Repository :=
  (.ok (), (repository.cacheDocument response.document).2)

/-- The end of a fetch with what a GET request brought. -/
def keepFetched : Except RemoteError Fetched × Repository → Except RemoteError Unit × Repository
  | (.error error, repository) => failed error repository
  | (.ok (.document response), repository) => keepAll response repository
  | (.ok (.recoverable _), repository) => (.ok (), repository)

/-- The body of a request for resources. -/
def idsBody (ids : List String) : Json :=
  .object [("ids", Json.ofStrings ids)]

/-- Fetches resources one by one, up to the first failure. -/
def fetchEach (path : String) : Fetch
  | [], repository => (.ok (), repository)
  | id :: rest, repository =>
    match repository.withSession (Session.get (path ++ "/" ++ id)) with
    | (.error error, repository) => failed error repository
    | (.ok (.document response), repository) =>
      fetchEach path rest (repository.cacheSingle response.document).2
    | (.ok (.recoverable _), repository) => fetchEach path rest repository

/-- The hook of a plan. -/
def fetch (plan : FetchPlan) : Fetch := fun ids repository ↦
  match plan with
  | .query path =>
    let parameters := Form.Parameters.pairs [(.string idParameter, .string (joinIds ids))]
    keepFetched (repository.withSession (Session.fetchByQuery path parameters))
  | .address path =>
    keepFetched
      (repository.withSession (Session.get (path ++ "?" ++ idParameter ++ "=" ++ joinIds ids)))
  | .body path =>
    match repository.withSession (Session.post path (idsBody ids)) with
    | (.error error, repository) => failed error repository
    | (.ok response, repository) => keepAll response repository
  | .oneByOne path => fetchEach path ids repository
  | .nothing => (.ok (), repository)
  | .failing cause => failed (.other cause) repository

end FetchPlan

end ResourceLookup
