import ResourceLookup.Document.ErrorObject
import ResourceLookup.Json.Reader
import ResourceLookup.Status

/-!
# Documents and responses

A JSON:API document has primary data, which is a single resource or a collection, or error objects,
or both, and further members that are kept as they came. `Document.ofOctets` reads the body of a
response: an empty body is the empty document, any other has to be a JSON object with at least one
of the members `data`, `errors` and `meta`. `Document.encode` writes a document, empty members left
out.

A `Response` is a document with the status it came with. It is a success if there is a status, the
status is neither a client error nor a server error, and the document has no error objects.
-/

set_option autoImplicit false
set_option relaxedAutoImplicit false

namespace ResourceLookup

/-- Primary data: a collection or a single resource. -/
inductive PrimaryData where
  | many (resources : List Resource)
  | one (resource : Resource)
  deriving DecidableEq

namespace PrimaryData

/-- The resources in the order of the document. -/
def resources : PrimaryData → List Resource
  | .many resources => resources
  | .one resource => [resource]

/-- The name of the shape of primary data. -/
def shapeName : Option PrimaryData → String
  | none => "none"
  | some (.many _) => "many"
  | some (.one _) => "one"

/-- Primary data in a JSON value: a collection if the value is one, else a single resource. -/
def decode (value : Json) : Json.Decoded PrimaryData :=
  match Json.asList Resource.decode value with
  | .ok resources => .ok (.many resources)
  | .error _ =>
    match Resource.decode value with
    | .ok resource => .ok (.one resource)
    | .error _ => .error (.noAlternative "PrimaryData")

/-- Primary data as a JSON value. -/
def encode : PrimaryData → Json
  | .many resources => .array (resources.map Resource.encode)
  | .one resource => resource.encode

end PrimaryData

/-- A JSON:API document. -/
structure Document where
  data : Option PrimaryData
  errors : List ErrorObject
  included : List Resource
  metadata : Option Json
  links : Option Json
  deriving DecidableEq

/-- Why a body is not a document. -/
inductive DocumentError where
  | notJson (error : Json.ReadError)
  | notDocument (mismatch : Json.Mismatch)
  | missingTopLevelMember
  deriving DecidableEq

namespace DocumentError

/-- The text of the JSON error behind the error, if there is one. -/
def jsonMessage : DocumentError → Option String
  | .notJson error => some error.message
  | .notDocument mismatch => some mismatch.message
  | .missingTopLevelMember => none

/-- The wording of the error. -/
def message (error : DocumentError) : String :=
  match error.jsonMessage with
  | some text => "response body is not valid JSON:API: " ++ text
  | none => "response document has none of the top-level members data, errors or meta"

/-- The error with its cause. -/
def chain (error : DocumentError) : List String :=
  error.message :: error.jsonMessage.toList

end DocumentError

namespace Document

/-- The document without anything. -/
def empty : Document :=
  ⟨none, [], [], none, none⟩

/-- A document with error objects and nothing else. -/
def ofErrors (errors : List ErrorObject) : Document :=
  { empty with errors := errors }

/-- The names of the members of a document. -/
def memberNames : List String :=
  ["data", "errors", "included", "meta", "links"]

/-- The document in a JSON value. -/
def decode (value : Json) : Json.Decoded Document := do
  let fields ← Json.record "document" memberNames false .refused value
  let data ← fields.optional "data" PrimaryData.decode
  let errors ← fields.withDefault "errors" [] (Json.asList ErrorObject.decode)
  let included ← fields.withDefault "included" [] (Json.asList Resource.decode)
  let metadata ← fields.optional "meta" asRaw
  let links ← fields.optional "links" asRaw
  pure ⟨data, errors, included, metadata, links⟩

/-- A list of values as a member, left out if it is empty. -/
def listMember (name : String) (values : List Json) : List (String × Json) :=
  if values.isEmpty then [] else [(name, .array values)]

/-- The document as a JSON value. -/
def encode (document : Document) : Json :=
  .object <|
    optionalMember "data" (document.data.map PrimaryData.encode) ++
      listMember "errors" (document.errors.map ErrorObject.encode) ++
      listMember "included" (document.included.map Resource.encode) ++
      optionalMember "meta" document.metadata ++ optionalMember "links" document.links

/-- Whether an octet is white space in a body without content. -/
def isEmptyOctet (byte : UInt8) : Bool :=
  byte == 9 || byte == 10 || byte == 12 || byte == 13 || byte == 32

/-- The members of which a document has at least one. -/
def topLevelMembers : List String := ["data", "errors", "meta"]

/-- The document in the members of the object that a body holds. -/
def ofMembers (members : List (String × Json)) : Except DocumentError Document :=
  if topLevelMembers.any fun name ↦ (Json.lookup name members).isSome then
    match decode (.object members) with
    | .ok document => .ok document
    | .error mismatch => .error (.notDocument mismatch)
  else .error .missingTopLevelMember

/-- The document that the body of a response holds. -/
def ofOctets (body : List UInt8) : Except DocumentError Document :=
  if body.all isEmptyOctet then .ok empty
  else
    match Json.parseOctets body with
    | .error error => .error (.notJson error)
    | .ok value =>
      match Json.asMembers value.canonical with
      | .error mismatch => .error (.notDocument mismatch)
      | .ok members => ofMembers members

/-- Whether the document has error objects. -/
def hasErrors (document : Document) : Bool :=
  !document.errors.isEmpty

/-- The messages of all error objects, in the order of the document. -/
def errorDetails (document : Document) : List String :=
  document.errors.map ErrorObject.message

end Document

/-- A document with the status it came with, if it came with one. -/
structure Response where
  status : Option StatusCode
  document : Document
  deriving DecidableEq

namespace Response

/-- The number of the status. -/
def rawStatus (response : Response) : Option Nat :=
  response.status.map StatusCode.code

/-- Whether the document has error objects. -/
def hasErrors (response : Response) : Bool :=
  response.document.hasErrors

/-- Whether the response has a status below the errors and no error objects. -/
def isSuccess (response : Response) : Bool :=
  (match response.status with
    | some status => !status.isClientError && !status.isServerError
    | none => false) && !response.hasErrors

end Response

end ResourceLookup
