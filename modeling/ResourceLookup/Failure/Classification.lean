import ResourceLookup.Failure.Category
import ResourceLookup.Failure.Cause
import ResourceLookup.Text.Casing
import ResourceLookup.Text.Search

/-!
# Classifying failures

What is known about a failure (`FailureReport`): the status that the remote answered with, if it
answered, the type of the error and its message. A status alone decides the category. Without one,
the type and the message are searched, in lower case, for words that tell a timeout and then for
words that tell a connection failure (`classify`).
-/

set_option autoImplicit false
set_option relaxedAutoImplicit false

namespace ResourceLookup

/-- What the classification of a failure looks at. -/
structure FailureReport where
  httpStatus : Option Nat
  errorType : String
  message : String
  deriving DecidableEq

namespace FailureReport

/-- The report of an error with all its causes in the message; errors of input and output are told
apart by their type. -/
def ofCauses (chain : CauseChain) (fromInputOutput : Bool) (httpStatus : Option Nat) :
    FailureReport :=
  ⟨httpStatus, if fromInputOutput then "io::Error" else "Error", chain.joined⟩

end FailureReport

/-- Words that tell a timeout. -/
def timeoutMarkers : List String :=
  ["timeout", "timed out", "deadline exceeded"]

/-- Words that tell a failure to connect. -/
def connectionMarkers : List String :=
  ["connection", "connect error", "refused", "unreachable", "dns", "resolve", "broken pipe"]

/-- The category that a status decides. -/
def categoryOfStatus (status : Nat) : FailureCategory :=
  if status == 404 then .notFound
  else if status == 401 || status == 403 then .authError
  else if status == 429 then .rateLimited
  else if 500 ≤ status && status ≤ 599 then .serverError
  else if 400 ≤ status && status ≤ 499 then .clientError
  else .unknown

/-- Whether one of the markers occurs in the text. -/
def mentions (markers : List String) (text : List Char) : Bool :=
  markers.any fun marker ↦ Text.occursIn marker.toList text

/-- The category of a failure without a status, by the words in its type and message. -/
def categoryOfText (errorType message : String) : FailureCategory :=
  let text := Text.foldForSearch (errorType ++ " " ++ message).toList
  if mentions timeoutMarkers text then .timeout
  else if mentions connectionMarkers text then .connectionError
  else .unknown

/-- The category of a failure: by its status where there is one, else by its words. -/
def classify (failure : FailureReport) : FailureCategory :=
  match failure.httpStatus with
  | some status => categoryOfStatus status
  | none => categoryOfText failure.errorType failure.message

end ResourceLookup
