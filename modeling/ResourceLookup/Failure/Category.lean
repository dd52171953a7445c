import ResourceLookup.Json.Decode
import ResourceLookup.Time.Duration

/-!
# Categories of failures

A lookup fails for one of eight reasons. The order of `FailureCategory.all` is the order in which
settings list them. `FailureCategory.name` and `FailureCategory.named?` are inverse to each other.
-/

set_option autoImplicit false
set_option relaxedAutoImplicit false

namespace ResourceLookup

/-- Why a remote lookup failed. -/
inductive FailureCategory where
  | notFound
  | authError
  | rateLimited
  | serverError
  | timeout
  | connectionError
  | clientError
  | unknown
  deriving DecidableEq

namespace FailureCategory

/-- All categories, in the order in which settings list them. -/
def all : List FailureCategory :=
  [.notFound, .authError, .rateLimited, .serverError, .timeout, .connectionError, .clientError,
    .unknown]

/-- The name in settings, entries and texts. -/
def name : FailureCategory → String
  | .notFound => "not_found"
  | .authError => "auth_error"
  | .rateLimited => "rate_limited"
  | .serverError => "server_error"
  | .timeout => "timeout"
  | .connectionError => "connection_error"
  | .clientError => "client_error"
  | .unknown => "unknown"

/-- The name in diagnostic texts. -/
def diagnostic : FailureCategory → String
  | .notFound => "NotFound"
  | .authError => "AuthError"
  | .rateLimited => "RateLimited"
  | .serverError => "ServerError"
  | .timeout => "Timeout"
  | .connectionError => "ConnectionError"
  | .clientError => "ClientError"
  | .unknown => "Unknown"

/-- The category of that name. -/
def named? (text : String) : Option FailureCategory :=
  all.find? fun category ↦ category.name == text

/-- The text that tells that no category has the name. -/
def unknownNameMessage (text : String) : String :=
  "unknown failure category '" ++ text ++ "'"

/-- Whether such a failure is expected to clear up without any change on the caller's side. -/
def isTransient : FailureCategory → Bool
  | .timeout | .connectionError | .serverError | .rateLimited => true
  | _ => false

/-- The suggested time for which such a failure is remembered, in seconds; none where the general
default applies. -/
def recommendedSeconds : FailureCategory → Option Nat
  | .notFound => some 600
  | .authError | .clientError => some 300
  | .rateLimited => some 60
  | .serverError => some 120
  | .timeout | .connectionError => some 30
  | .unknown => none

/-- The place of a category in the order of `all`. -/
def rank : FailureCategory → Nat
  | .notFound => 0
  | .authError => 1
  | .rateLimited => 2
  | .serverError => 3
  | .timeout => 4
  | .connectionError => 5
  | .clientError => 6
  | .unknown => 7

/-- A category by name, as the key of an object. -/
def decodeName (text : String) : Json.Decoded FailureCategory :=
  match named? text with
  | some category => .ok category
  | none => .error (.other ("no failure category `" ++ text ++ "`"))

/-- A category in a JSON value: its name, or an object with its name and nothing. -/
def decode : Json → Json.Decoded FailureCategory
  | .string text => decodeName text
  | .object [(text, .null)] => decodeName text
  | other => .error (.wrongKind other.describe "the name of a failure category")

theorem named?_name (category : FailureCategory) : named? category.name = some category := by
  cases category <;> decide

theorem mem_all (category : FailureCategory) : category ∈ all := by
  cases category <;> decide

end FailureCategory

end ResourceLookup
