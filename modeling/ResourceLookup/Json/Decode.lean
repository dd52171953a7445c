import ResourceLookup.Json.Printer

/-!
# Decoding JSON values

Reading typed data out of a JSON value. A record is written either as an object, its members named,
or as an array of its members in their fixed order, where members at the end may be left out if they
have a default. In an object a member that the record knows may stand only once; one it does not
know is ignored, or refused where the record is closed. What becomes of elements of an array beyond
the members depends on where the value comes from (`Json.Surplus`).

`Json.record` finds the members of a record in either form; a decoder then asks for each of them
with `Fields.required`, `Fields.withDefault` or `Fields.optional`. What does not fit is a
`Json.Mismatch`.
-/

set_option autoImplicit false
set_option relaxedAutoImplicit false

namespace ResourceLookup.Json

/-- How a value can fail to be the data that was expected. -/
inductive Mismatch where
  | wrongKind (found expected : String)
  | outOfRange (found expected : String)
  | missingMember (name : String)
  | repeatedMember (name : String)
  | unknownMember (name : String)
  | wrongLength (length : Nat) (expected : String)
  | noAlternative (type : String)
  | other (reason : String)
  deriving DecidableEq

/-- The wording of a mismatch. -/
def Mismatch.message : Mismatch → String
  | .wrongKind found expected => "invalid type: " ++ found ++ ", expected " ++ expected
  | .outOfRange found expected => "invalid value: " ++ found ++ ", expected " ++ expected
  | .missingMember name => "missing field `" ++ name ++ "`"
  | .repeatedMember name => "duplicate field `" ++ name ++ "`"
  | .unknownMember name => "unknown field `" ++ name ++ "`"
  | .wrongLength length expected =>
    "invalid length " ++ toString length ++ ", expected " ++ expected
  | .noAlternative type => "data did not match any variant of untagged enum " ++ type
  | .other reason => reason

/-- A decoded datum or what did not fit. -/
abbrev Decoded (α : Type) := Except Mismatch α

/-- What a value is, in the words of a mismatch. -/
def describe : Json → String
  | .null => "null"
  | .bool true => "boolean `true`"
  | .bool false => "boolean `false`"
  | .number (.integer value) => "integer `" ++ String.ofList (writeInteger value) ++ "`"
  | .number (.real value) =>
    "floating point `" ++ String.ofList (Decimal.text .json value) ++ "`"
  | .string text => "string " ++ String.ofList (writeString text)
  | .array _ => "sequence"
  | .object _ => "map"

/-! ### Single values -/

/-- A text. -/
def asString : Json → Decoded String
  | .string text => .ok text
  | other => .error (.wrongKind other.describe "a string")

/-- A flag. -/
def asBool : Json → Decoded Bool
  | .bool flag => .ok flag
  | other => .error (.wrongKind other.describe "a boolean")

/-- A natural number below `bound`. -/
def asNatBelow (bound : Nat) (type : String) : Json → Decoded Nat
  | .number (.integer value) =>
    if 0 ≤ value && value.toNat < bound then .ok value.toNat
    else .error (.outOfRange (describe (.number (.integer value))) type)
  | other => .error (.wrongKind other.describe type)

/-- A natural number of 64 bits. -/
def asNat64 : Json → Decoded Nat :=
  asNatBelow (Nat.pow 2 64) "a natural number of 64 bits"

/-- A natural number of 32 bits. -/
def asNat32 : Json → Decoded Nat :=
  asNatBelow (Nat.pow 2 32) "a natural number of 32 bits"

/-- A natural number of 16 bits. -/
def asNat16 : Json → Decoded Nat :=
  asNatBelow (Nat.pow 2 16) "a natural number of 16 bits"

/-- The floating point number nearest to an integer of 64 bits. -/
def realOfInt (value : Int) : Float :=
  if value < 0 then -(UInt64.ofNat value.natAbs).toFloat else (UInt64.ofNat value.natAbs).toFloat

/-- A floating point number; integers are converted. -/
def asReal : Json → Decoded Float
  | .number (.integer value) => .ok (realOfInt value)
  | .number (.real value) => .ok value
  | other => .error (.wrongKind other.describe "a floating point number")

/-- A value that may be absent: `null` stands for absence. -/
def asOption {α : Type} (decode : Json → Decoded α) : Json → Decoded (Option α)
  | .null => .ok none
  | value => (decode value).map some

/-- The results of decoding each value, or the first mismatch. -/
def decodeAll {α : Type} (decode : Json → Decoded α) : List Json → Decoded (List α)
  | [] => .ok []
  | first :: rest =>
    match decode first with
    | .error mismatch => .error mismatch
    | .ok value =>
      match decodeAll decode rest with
      | .error mismatch => .error mismatch
      | .ok values => .ok (value :: values)

/-- Values that are decoded one by one read back if each does. -/
theorem decodeAll_map {α : Type} {decode : Json → Decoded α} {encode : α → Json} {data : List α}
    (hread : ∀ datum ∈ data, decode (encode datum) = .ok datum) :
    decodeAll decode (data.map encode) = .ok data := by
  induction data with
  | nil => rfl
  | cons datum rest ih =>
    rw [List.forall_mem_cons] at hread
    rw [List.map_cons, decodeAll, hread.1, ih hread.2]

/-- An array with every element decoded. -/
def asList {α : Type} (decode : Json → Decoded α) : Json → Decoded (List α)
  | .array elements => decodeAll decode elements
  | other => .error (.wrongKind other.describe "a sequence")

/-- The members of an object. -/
def asMembers : Json → Decoded (List (String × Json))
  | .object members => .ok members
  | other => .error (.wrongKind other.describe "a map")

/-! ### Records -/

/-- The members found for a record, by name. -/
structure Fields where
  find? : String → Option Json

/-- Looks for a second member of a known name, and for unknown names where the record is closed. -/
def checkMembers (known : List String) (closed : Bool) : List (String × Json) → Decoded Unit
  | [] => .ok ()
  | (name, _) :: rest =>
    if known.contains name then
      if rest.any (·.1 == name) then .error (.repeatedMember name)
      else checkMembers known closed rest
    else if closed then .error (.unknownMember name)
    else checkMembers known closed rest

/-- What becomes of elements beyond the members of a record that is written as an array: a text that
holds a record must not have them, a configuration may. -/
inductive Surplus where
  | refused
  | ignored
  deriving DecidableEq

/-- The members of a record with the given member names, from an object or from an array. -/
def record (type : String) (known : List String) (closed : Bool) (surplus : Surplus) :
    Json → Decoded Fields
  | .object members =>
    match checkMembers known closed members with
    | .error mismatch => .error mismatch
    | .ok () => .ok ⟨fun name ↦ lookup name members⟩
  | .array elements =>
    if surplus = .refused && known.length < elements.length then
      .error (.wrongLength elements.length ("the members of " ++ type))
    else .ok ⟨fun name ↦ lookup name (known.zip elements)⟩
  | other => .error (.wrongKind other.describe ("the members of " ++ type))

/-- A member that has to be there. -/
def Fields.required {α : Type} (fields : Fields) (name : String) (decode : Json → Decoded α) :
    Decoded α :=
  match fields.find? name with
  | some value => decode value
  | none => .error (.missingMember name)

/-- A member with a default. -/
def Fields.withDefault {α : Type} (fields : Fields) (name : String) (default : α)
    (decode : Json → Decoded α) : Decoded α :=
  match fields.find? name with
  | some value => decode value
  | none => .ok default

/-- A member that may be absent or `null`. -/
def Fields.optional {α : Type} (fields : Fields) (name : String) (decode : Json → Decoded α) :
    Decoded (Option α) :=
  fields.withDefault name none (asOption decode)

/-! ### Members that are found -/

namespace Fields

variable {α : Type} {fields : Fields} {name : String} {value : Json} {default : α}
  {decode : Json → Decoded α}

theorem required_of_find? (hfound : fields.find? name = some value) :
    fields.required name decode = decode value := by
  rw [required, hfound]

theorem withDefault_of_find? (hfound : fields.find? name = some value) :
    fields.withDefault name default decode = decode value := by
  rw [withDefault, hfound]

theorem withDefault_of_absent (habsent : fields.find? name = none) :
    fields.withDefault name default decode = .ok default := by
  rw [withDefault, habsent]

end Fields

end ResourceLookup.Json
