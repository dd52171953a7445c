import ResourceLookup.Failure.Category
import ResourceLookup.Json.Skip
import ResourceLookup.Time.Timestamp

/-!
# Remembered failures

A `FailureEntry` is what is stored about a failed lookup: when it failed, which lookup it was, what
is known about the error, its category and for how many seconds it is remembered. Entries are kept
outside the program as JSON texts, `FailureEntry.toJson?` and `FailureEntry.ofJson?`.

An entry has expired at a time of the wall clock that is not before the time it was made plus its
lifetime; a lifetime that leads beyond the calendar never ends (`FailureEntry.isExpiredAt`).
-/

set_option autoImplicit false
set_option relaxedAutoImplicit false

namespace ResourceLookup

/-- A remembered failure. -/
structure FailureEntry where
  cachedAt : Timestamp
  repository : String
  lookupType : String
  identifiers : List String
  errorType : String
  message : String
  httpStatus : Option Nat
  category : FailureCategory
  ttlSeconds : Nat
  deriving DecidableEq

namespace FailureEntry

/-- The lifetime of the entry. -/
def ttl (entry : FailureEntry) : Duration :=
  Duration.ofSeconds entry.ttlSeconds

/-- The end of the entry's lifetime on the wall clock, if the calendar reaches it. -/
def expiry? (entry : FailureEntry) : Option Timestamp :=
  if entry.ttlSeconds < Nat.pow 2 63 then entry.cachedAt.add? entry.ttlSeconds else none

/-- Whether the entry's lifetime has ended at a time of the wall clock. -/
def isExpiredAt (entry : FailureEntry) (now : Timestamp) : Bool :=
  match entry.expiry? with
  | some expiry => expiry.notAfter now
  | none => false

/-- The names of the members of a stored entry. -/
def memberNames : List String :=
  ["cached_at", "repository", "lookup_type", "identifiers", "error_type", "message", "http_status",
    "category", "ttl_secs"]

/-- The entry as a JSON value, if its time can be written. -/
def encode? (entry : FailureEntry) : Option Json :=
  entry.cachedAt.write?.map fun time ↦
    .object
      [("cached_at", .string time),
       ("repository", .string entry.repository),
       ("lookup_type", .string entry.lookupType),
       ("identifiers", Json.ofStrings entry.identifiers),
       ("error_type", .string entry.errorType),
       ("message", .string entry.message),
       ("http_status", Json.ofOption Json.ofNat entry.httpStatus),
       ("category", .string entry.category.name),
       ("ttl_secs", Json.ofNat entry.ttlSeconds)]

/-- The entry in a JSON value. -/
def decode (value : Json) : Json.Decoded FailureEntry := do
  let fields ← Json.record "failure entry" memberNames false .refused value
  let cachedAt ← fields.required "cached_at" Timestamp.decode
  let repository ← fields.required "repository" Json.asString
  let lookupType ← fields.required "lookup_type" Json.asString
  let identifiers ← fields.required "identifiers" (Json.asList Json.asString)
  let errorType ← fields.required "error_type" Json.asString
  let message ← fields.required "message" Json.asString
  let httpStatus ← fields.optional "http_status" Json.asNat16
  let category ← fields.required "category" FailureCategory.decode
  let ttlSeconds ← fields.required "ttl_secs" Json.asNat64
  pure ⟨cachedAt, repository, lookupType, identifiers, errorType, message, httpStatus, category,
    ttlSeconds⟩

/-- The stored text of an entry, if its time can be written. -/
def toJson? (entry : FailureEntry) : Option String :=
  entry.encode?.map Json.compact

/-- The entry that a stored text holds; members that an entry does not have are skipped. -/
def ofJson? (text : String) : Option FailureEntry :=
  match Json.parseRecord? memberNames text with
  | none => none
  | some value =>
    match decode value with
    | .ok entry => some entry
    | .error _ => none

end FailureEntry

/-- A lookup was left out because the same lookup failed within the lifetime of the entry. -/
structure CachedLookupFailure where
  entry : FailureEntry
  deriving DecidableEq

/-- The wording of a remembered failure. -/
def CachedLookupFailure.message (failure : CachedLookupFailure) : String :=
  let entry := failure.entry
  let status := match entry.httpStatus with
    | some status => ", HTTP " ++ toString status
    | none => ""
  entry.repository ++ " " ++ entry.lookupType ++ " lookup failed recently (" ++
    entry.category.name ++ status ++ "): " ++ entry.message

end ResourceLookup
