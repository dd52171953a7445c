import ResourceLookup.Text.Casing
import ResourceLookup.Text.Composed
import ResourceLookup.Url.Domain.MappingTable

/-!
# Mapping host names

Characters that look or sound alike in a host name are mapped to one: capitals to small letters,
full-width forms and other compatible forms to plain ones, and the stops of ideographic writing to
the full stop. `Domain.mapped?` maps a text and composes it; a text that contains a character that
no host name contains has no mapped form.
-/

set_option autoImplicit false
set_option relaxedAutoImplicit false

namespace ResourceLookup.Domain

/-- What a character beyond ASCII stands for among the shifted ones. -/
def shiftedForm? (code : Nat) : Option (List Nat) :=
  match shifted.find? code with
  | some ⟨first, _, [step, target]⟩ =>
    if (code - first) % step == 0 then some [target + (code - first)] else none
  | _ => none

/-- What a character beyond ASCII stands for among the listed ones. -/
def listedForm? (code : Nat) : Option (List Nat) :=
  match listed.find? code with
  | some row => row.values[code - row.first]?.map fun target ↦ [target]
  | none => none

/-- What a character beyond ASCII stands for, if it is one of the spelled ones. -/
def spelledForm? (code : Nat) : Option (List Nat) :=
  (spelled.find? code).map CodeRow.values

/-- What a character of a host name is mapped to; nothing if no host name contains it. -/
def mapChar? (c : Char) : Option (List Char) :=
  if c.toNat < 0x80 then some [Text.asciiLowerChar c]
  else if disallowed.contains c.toNat then none
  else if ignored.contains c.toNat then some []
  else
    match ((shiftedForm? c.toNat).or (listedForm? c.toNat)).or (spelledForm? c.toNat) with
    | some codes => some (codes.map Char.ofNat)
    | none => some [c]

/-- The mapped characters of a text, if all of them can stand in a host name. -/
def mapAll? (text : List Char) : Option (List Char) :=
  (text.mapM mapChar?).map List.flatten

/-- The mapped text in composed form, if all its characters can stand in a host name. -/
def mapped? (text : List Char) : Option (List Char) :=
  (mapAll? text).map Text.composed

end ResourceLookup.Domain
