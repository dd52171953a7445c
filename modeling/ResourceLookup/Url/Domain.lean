import ResourceLookup.Text.Search
import ResourceLookup.Url.Domain.Label
import ResourceLookup.Url.Domain.Mapping
import ResourceLookup.Url.Percent
import ResourceLookup.Url.Punycode

/-!
# Domain names

The host part of a web address as a domain name, in the form in which two names are compared:
percent escapes decoded, characters mapped to the plain form of what they stand for, and labels in
punycode decoded. `Domain.normalize?` gives that form, or nothing for a name that contains a
character that no host name can contain or a label that is not valid.

A label in punycode has to be the encoding of a label that is in mapped form and that needs to be
encoded, so that each name has one form only.
-/

set_option autoImplicit false
set_option relaxedAutoImplicit false

namespace ResourceLookup.Domain

/-- ASCII characters that a host name cannot contain, besides controls and the space. -/
def forbiddenMarks : List Char :=
  ['%', '#', '/', ':', '<', '>', '?', '@', '[', '\\', ']', '^', '|']

/-- Whether a host name cannot contain the ASCII character. -/
def isForbidden (c : Char) : Bool :=
  c.toNat ≤ 32 || c.toNat == 127 || forbiddenMarks.contains c

/-- What a label in punycode starts with. -/
def encodedMark : List Char := ['x', 'n', '-', '-']

/-- The largest number of characters behind the mark of a label in punycode. -/
def encodedLimit : Nat := 2000

/-- The label that a punycode text stands for, if that is in mapped form and has to be encoded. -/
def decodeLabel? (encoded : List Char) : Option (List Char) :=
  if encoded.isEmpty || encoded.getLast? == some '-' || encodedLimit < encoded.length ||
      !Label.isAscii encoded then none
  else
    match Punycode.decode? encoded with
    | none => none
    | some label =>
      if mapped? label = some label && !label.any (fun c ↦ isForbidden c || c == '.') then
        some label
      else none

/-- A label of a mapped name with its punycode decoded, if it is valid. -/
def plainLabel? (label : List Char) : Option (List Char) :=
  let plain := match Text.stripStart? encodedMark label with
    | some encoded => decodeLabel? encoded
    | none => some label
  plain.filter Label.isValid

/-- The form of a host name in which names are compared. -/
def normalize? (host : String) : Option (List Char) := do
  let decoded ← Percent.decodeText? host
  let mapped ← mapped? decoded.toList
  if mapped.any isForbidden then none
  else
    let labels ← (Text.splitWhere (· == '.') mapped).mapM plainLabel?
    if Label.goTogether labels then some (List.intercalate ['.'] labels) else none

end ResourceLookup.Domain
