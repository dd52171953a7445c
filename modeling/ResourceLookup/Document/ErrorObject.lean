import ResourceLookup.Document.Resource
import ResourceLookup.Json.Skip

/-!
# Error objects

What a remote reports about one error. Its message is the most telling of its texts: the detail,
else the title, else the code (`ErrorObject.message`).
-/

set_option autoImplicit false
set_option relaxedAutoImplicit false

namespace ResourceLookup

/-- An error object of a JSON:API document. -/
structure ErrorObject where
  id : Option String
  status : Option String
  code : Option String
  title : Option String
  detail : Option String
  source : Option Json
  metadata : Option Json
  deriving DecidableEq

namespace ErrorObject

/-- An error with a detail and nothing else. -/
def ofDetail (detail : String) : ErrorObject :=
  ⟨none, none, none, none, some detail, none, none⟩

/-- The message for people: the detail, else the title, else the code. -/
def message (error : ErrorObject) : String :=
  ((error.detail.or error.title).or error.code).getD "Unknown error"

/-- The names of the members of an error object. -/
def memberNames : List String :=
  ["id", "status", "code", "title", "detail", "source", "meta"]

/-- The error object in a JSON value. -/
def decode (value : Json) : Json.Decoded ErrorObject := do
  let fields ← Json.record "error object" memberNames false .refused value
  let id ← fields.optional "id" Json.asString
  let status ← fields.optional "status" asTextOrNumber
  let code ← fields.optional "code" Json.asString
  let title ← fields.optional "title" Json.asString
  let detail ← fields.optional "detail" Json.asString
  let source ← fields.optional "source" asRaw
  let metadata ← fields.optional "meta" asRaw
  pure ⟨id, status, code, title, detail, source, metadata⟩

/-- The error object that a text holds; members that an error object does not have are skipped. -/
def ofJson? (text : String) : Option ErrorObject :=
  match Json.parseRecord? memberNames text with
  | none => none
  | some value =>
    match decode value with
    | .ok error => some error
    | .error _ => none

/-- A member for an optional text, left out if there is none. -/
def textMember (name : String) (text : Option String) : List (String × Json) :=
  optionalMember name (text.map .string)

/-- The error object as a JSON value. -/
def encode (error : ErrorObject) : Json :=
  .object <|
    textMember "id" error.id ++ textMember "status" error.status ++ textMember "code" error.code ++
      textMember "title" error.title ++ textMember "detail" error.detail ++
      optionalMember "source" error.source ++ optionalMember "meta" error.metadata

end ErrorObject

end ResourceLookup
