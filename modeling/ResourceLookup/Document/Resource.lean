import ResourceLookup.Json.Decode

/-!
# Resources

A resource of a JSON:API document: its identifier, its type, its attributes, and the members that
are kept as they came. The identifier may be written as a number; it is kept as its text. Attributes
are sorted by name, and empty or absent members are left out when a resource is written.
-/

set_option autoImplicit false
set_option relaxedAutoImplicit false

namespace ResourceLookup

/-- A resource. -/
structure Resource where
  id : String
  kind : String
  attributes : List (String × Json)
  relationships : Option Json
  links : Option Json
  metadata : Option Json
  deriving DecidableEq

/-- A text, or a number as its text. -/
def asTextOrNumber : Json → Json.Decoded String
  | .string text => .ok text
  | .number value => .ok (String.ofList (Json.writeNumber value))
  | other => .error (.other ("expected string or number, got " ++ other.compact))

/-- A raw value: sorted throughout, `null` for absence. -/
def asRaw (value : Json) : Json.Decoded Json :=
  .ok value.canonical

/-- A member for an optional value, left out if there is none. -/
def optionalMember (name : String) : Option Json → List (String × Json)
  | none => []
  | some value => [(name, value)]

namespace Resource

/-- A resource of a type with an identifier and nothing else. -/
def new (kind id : String) : Resource :=
  ⟨id, kind, [], none, none, none⟩

/-- The resource with one more attribute, which replaces one of the same name. -/
def withAttribute (resource : Resource) (name : String) (value : Json) : Resource :=
  { resource with attributes := Json.insert name value resource.attributes }

/-- The attribute of that name. -/
def attributeNamed? (resource : Resource) (name : String) : Option Json :=
  Json.lookup name resource.attributes

/-- The attributes read as a datum of another type. -/
def attributesAs {α : Type} (resource : Resource) (decode : Json → Json.Decoded α) :
    Json.Decoded α :=
  decode (.object resource.attributes)

/-- The names of the members of a resource. -/
def memberNames : List String :=
  ["id", "type", "attributes", "relationships", "links", "meta"]

/-- The resource in a JSON value. -/
def decode (value : Json) : Json.Decoded Resource := do
  let fields ← Json.record "resource" memberNames false .refused value
  let id ← fields.required "id" asTextOrNumber
  let kind ← fields.required "type" Json.asString
  let attributes ← fields.withDefault "attributes" [] fun attributes ↦ do
    let members ← Json.asMembers attributes
    pure (Json.sortMembers (Json.canonicalMembers members))
  let relationships ← fields.optional "relationships" asRaw
  let links ← fields.optional "links" asRaw
  let metadata ← fields.optional "meta" asRaw
  pure ⟨id, kind, attributes, relationships, links, metadata⟩

/-- The resource as a JSON value. -/
def encode (resource : Resource) : Json :=
  .object <|
    [("id", .string resource.id), ("type", .string resource.kind)] ++
      (if resource.attributes.isEmpty then [] else [("attributes", .object resource.attributes)]) ++
      optionalMember "relationships" resource.relationships ++
      optionalMember "links" resource.links ++ optionalMember "meta" resource.metadata

end Resource

end ResourceLookup
