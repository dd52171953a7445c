import ResourceLookup.Document.Basic

/-!
# Results

A repository keeps the resources it has fetched, at most one for each identifier (`ResultCache`).
They come in with documents, all primary resources of one (`ResultCache.addDocument`) or a single
one (`ResultCache.addSingle`), and go all at once.

A `ResourceQuery` picks resources by type and attributes; its answers are ordered by identifier
(`ResourceQuery.all`).
-/

set_option autoImplicit false
set_option relaxedAutoImplicit false

namespace ResourceLookup

/-- The resources fetched so far, by identifier. -/
structure ResultCache where
  items : List (String × Resource)
  deriving DecidableEq

namespace ResultCache

/-- No resources. -/
def empty : ResultCache := ⟨[]⟩

/-- The entries with one set: in its place where the key is there already, else at the end. -/
def setEntry (id : String) (resource : Resource) :
    List (String × Resource) → List (String × Resource)
  | [] => [(id, resource)]
  | (other, old) :: rest =>
    if other = id then (id, resource) :: rest else (other, old) :: setEntry id resource rest

/-- The entry of an identifier. -/
def findEntry? (id : String) : List (String × Resource) → Option Resource
  | [] => none
  | (other, resource) :: rest => if other = id then some resource else findEntry? id rest

/-- The resource with that identifier. -/
def find? (cache : ResultCache) (id : String) : Option Resource :=
  findEntry? id cache.items

/-- Whether there is a resource with that identifier. -/
def contains (cache : ResultCache) (id : String) : Bool :=
  (cache.find? id).isSome

/-- The number of resources. -/
def size (cache : ResultCache) : Nat := cache.items.length

/-- Whether there are no resources. -/
def isEmpty (cache : ResultCache) : Bool := cache.items.isEmpty

/-- The cache with a resource under its own identifier. -/
def add (cache : ResultCache) (resource : Resource) : ResultCache :=
  ⟨setEntry resource.id resource cache.items⟩

/-- The cache with all primary resources of a document, and their number. -/
def addDocument (cache : ResultCache) (document : Document) : Nat × ResultCache :=
  match document.data with
  | none => (0, cache)
  | some data => (data.resources.length, data.resources.foldl add cache)

/-- The cache with the single primary resource of a document, and whether there is one. -/
def addSingle (cache : ResultCache) (document : Document) : Bool × ResultCache :=
  match document.data with
  | some (.one resource) => (true, cache.add resource)
  | _ => (false, cache)

/-- All resources, in the order in which their identifiers came in. -/
def resources (cache : ResultCache) : List Resource :=
  cache.items.map (·.2)

end ResultCache

/-- Which resources to pick: those of a type, if one is given, with all the given attributes. -/
structure ResourceQuery where
  kind : Option String
  attributes : List (String × Json)

namespace ResourceQuery

/-- All resources. -/
def everything : ResourceQuery := ⟨none, []⟩

/-- Those of a type; a later type replaces an earlier one. -/
def ofKind (query : ResourceQuery) (kind : String) : ResourceQuery :=
  { query with kind := some kind }

/-- Those with an attribute of the given value, besides all other conditions. -/
def whereAttribute (query : ResourceQuery) (name : String) (value : Json) : ResourceQuery :=
  { query with attributes := query.attributes ++ [(name, value)] }

/-- Whether a resource has an attribute of the given value. -/
def hasAttribute (resource : Resource) (name : String) (value : Json) : Bool :=
  match resource.attributeNamed? name with
  | some found => found.sameValue value
  | none => false

/-- Whether a resource is picked. -/
def isMatch (query : ResourceQuery) (resource : Resource) : Bool :=
  (match query.kind with
    | some kind => resource.kind == kind
    | none => true) &&
    query.attributes.all fun (name, value) ↦ hasAttribute resource name value

/-- A resource put into a list in ascending order of identifier. -/
def insertById (resource : Resource) : List Resource → List Resource
  | [] => [resource]
  | first :: rest =>
    if resource.id < first.id then resource :: first :: rest
    else first :: insertById resource rest

/-- The resources in ascending order of identifier. -/
def sortById (resources : List Resource) : List Resource :=
  resources.foldl (fun sorted resource ↦ insertById resource sorted) []

/-- The resources picked, in ascending order of identifier. -/
def all (query : ResourceQuery) (cache : ResultCache) : List Resource :=
  sortById (cache.resources.filter query.isMatch)

/-- The first of the resources picked. -/
def first? (query : ResourceQuery) (cache : ResultCache) : Option Resource :=
  (query.all cache).head?

/-- The identifiers of the resources picked. -/
def ids (query : ResourceQuery) (cache : ResultCache) : List String :=
  (query.all cache).map Resource.id

/-- The number of resources picked. -/
def count (query : ResourceQuery) (cache : ResultCache) : Nat :=
  cache.resources.countP query.isMatch

end ResourceQuery

end ResourceLookup
