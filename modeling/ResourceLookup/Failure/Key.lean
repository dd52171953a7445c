import ResourceLookup.Digest.Sha256
import ResourceLookup.Text.Sorted

/-!
# Keys of remembered failures

A lookup is known by its repository, its type and its set of identifiers. `lookupKey` names it by a
text: repository and type in the clear, and a digest over repository, type and the identifiers in
ascending order, each once. The octets that go into the digest are `keyMaterial`: repository and
type are each followed by a record separator and every identifier by a unit separator.

Order and repetition of the identifiers do not matter (`Text.sortedSet`), since the same set gives
the same ascending list.
-/

set_option autoImplicit false
set_option relaxedAutoImplicit false

namespace ResourceLookup

/-- The octet between the parts of a key. -/
def recordSeparator : UInt8 := 0x1e

/-- The octet behind every identifier. -/
def unitSeparator : UInt8 := 0x1f

/-- The octets over which the digest of a key is taken. -/
def keyMaterial (repository lookupType : String) (identifiers : List String) : List UInt8 :=
  Text.octets repository ++ [recordSeparator] ++ Text.octets lookupType ++ [recordSeparator] ++
    (Text.sortedSet identifiers).flatMap fun identifier ↦ Text.octets identifier ++ [unitSeparator]

/-- The part of a key that can be read. -/
def keyScope (repository lookupType : String) : String :=
  "remote_repo:failure:" ++ repository ++ ":" ++ lookupType ++ ":"

/-- The key under which the failure of a lookup is stored. -/
def lookupKey (repository lookupType : String) (identifiers : List String) : String :=
  keyScope repository lookupType ++
    Sha256.hexDigest (keyMaterial repository lookupType identifiers)

end ResourceLookup
