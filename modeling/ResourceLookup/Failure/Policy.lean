import ResourceLookup.Failure.Category
import ResourceLookup.Time.HumanDuration

/-!
# Settings of the failure cache

Whether failures are remembered at all, and for how long: a default and overrides for single
categories (`FailurePolicy.ttlFor`). Settings are read by `FailurePolicy.decode` and written by
`FailurePolicy.encode`; the overrides are kept in the order of the categories.
-/

set_option autoImplicit false
set_option relaxedAutoImplicit false

namespace ResourceLookup

/-- Overrides of the default time, at most one for each category, in the order of the categories. -/
abbrev CategoryTtls := List (FailureCategory × Duration)

namespace CategoryTtls

/-- The overrides with one more, which replaces that of the same category. -/
def insert (category : FailureCategory) (ttl : Duration) : CategoryTtls → CategoryTtls
  | [] => [(category, ttl)]
  | (other, old) :: rest =>
    if category.rank < other.rank then (category, ttl) :: (other, old) :: rest
    else if category = other then (category, ttl) :: rest
    else (other, old) :: insert category ttl rest

/-- The override of a category. -/
def find? (category : FailureCategory) : CategoryTtls → Option Duration
  | [] => none
  | (other, ttl) :: rest => if other = category then some ttl else find? category rest

end CategoryTtls

/-- How failures are remembered. -/
structure FailurePolicy where
  enabled : Bool
  defaultTtl : Duration
  categoryTtls : CategoryTtls
  deriving DecidableEq

namespace FailurePolicy

/-- Failures are remembered, all of them for two minutes. -/
def standard : FailurePolicy :=
  ⟨true, Duration.ofSeconds 120, []⟩

/-- The default with the suggested time for every category that has one. -/
def recommended : FailurePolicy :=
  { standard with
    categoryTtls := FailureCategory.all.filterMap fun category ↦
      category.recommendedSeconds.map fun seconds ↦ (category, Duration.ofSeconds seconds) }

/-- Nothing is remembered. -/
def disabled : FailurePolicy :=
  { standard with enabled := false }

/-- The settings with one more override. -/
def withTtl (policy : FailurePolicy) (category : FailureCategory) (ttl : Duration) :
    FailurePolicy :=
  { policy with categoryTtls := CategoryTtls.insert category ttl policy.categoryTtls }

/-- The time for which a failure of the category is remembered: the override, else the default. -/
def ttlFor (policy : FailurePolicy) (category : FailureCategory) : Duration :=
  (CategoryTtls.find? category policy.categoryTtls).getD policy.defaultTtl

/-- The names of the members of the settings. -/
def memberNames : List String := ["enabled", "default_ttl", "category_ttls"]

/-- Overrides from the members of an object; of several for one category the last one stays. -/
def decodeTtls (read : CategoryTtls) : List (String × Json) → Json.Decoded CategoryTtls
  | [] => .ok read
  | (name, value) :: rest =>
    match FailureCategory.decodeName name with
    | .error mismatch => .error mismatch
    | .ok category =>
      match HumanDuration.decode value with
      | .error mismatch => .error mismatch
      | .ok ttl => decodeTtls (CategoryTtls.insert category ttl read) rest

/-- The settings in a JSON value; members that are left out have their defaults. -/
def decode (surplus : Json.Surplus) (value : Json) : Json.Decoded FailurePolicy := do
  let fields ← Json.record "failure cache settings" memberNames true surplus value
  let enabled ← fields.withDefault "enabled" standard.enabled Json.asBool
  let defaultTtl ← fields.withDefault "default_ttl" standard.defaultTtl HumanDuration.decode
  let categoryTtls ← fields.withDefault "category_ttls" standard.categoryTtls fun ttls ↦ do
    let members ← Json.asMembers ttls
    decodeTtls [] members
  pure ⟨enabled, defaultTtl, categoryTtls⟩

/-- The settings as a JSON value. -/
def encode (policy : FailurePolicy) : Json :=
  .object
    [("enabled", .bool policy.enabled),
     ("default_ttl", HumanDuration.encode policy.defaultTtl),
     ("category_ttls", .object (policy.categoryTtls.map fun (category, ttl) ↦
       (category.name, HumanDuration.encode ttl)))]

/-- The settings in diagnostic texts. -/
def diagnostic (policy : FailurePolicy) : String :=
  let ttls := policy.categoryTtls.map fun (category, ttl) ↦
    category.diagnostic ++ ": " ++ ttl.diagnostic
  "FailureCacheConfig \x7b enabled: " ++ (if policy.enabled then "true" else "false") ++
    ", default_ttl: " ++ policy.defaultTtl.diagnostic ++
    ", category_ttls: \x7b" ++ String.intercalate ", " ttls ++ "\x7d \x7d"

end FailurePolicy

end ResourceLookup
