import ResourceLookup.Text.Blank
import ResourceLookup.Text.Casing
import ResourceLookup.Text.Octets

/-!
# Header names, values and fields

A `HeaderName` is a token in lower case, a `HeaderValue` a sequence of octets without controls other
than the tab; both carry the proof. `HeaderMap` is a list of fields with one value per name, as sent
with a request: `HeaderMap.insert` replaces. `HeaderFields` is a list in which a name may come
several times, as received: `HeaderFields.first?` is the first value of a name.

Main statements: a header that is set has its new value, and every other header its old one
(`HeaderMap.octets?_insert`); setting headers keeps one value for each name
(`HeaderMap.nodup_names_insert`).
-/

set_option autoImplicit false
set_option relaxedAutoImplicit false

namespace ResourceLookup

/-- The marks that a header name can contain besides letters and digits. -/
def headerNameMarks : List Nat :=
  [0x21, 0x23, 0x24, 0x25, 0x26, 0x27, 0x2A, 0x2B, 0x2D, 0x2E, 0x5E, 0x5F, 0x60, 0x7C, 0x7E]

/-- Whether a character can stand in a header name in lower case. -/
def isHeaderNameChar (c : Char) : Bool :=
  (97 ≤ c.toNat && c.toNat ≤ 122) || Text.isAsciiDigit c || headerNameMarks.contains c.toNat

/-- The largest number of characters of a header name. -/
def headerNameLimit : Nat := 65535

/-- Whether a text is a header name in lower case. -/
def isHeaderName (text : String) : Bool :=
  let chars := text.toList
  !chars.isEmpty && chars.length ≤ headerNameLimit && chars.all isHeaderNameChar

/-- The name of a header, in lower case. -/
structure HeaderName where
  text : String
  valid : isHeaderName text = true
  deriving DecidableEq

namespace HeaderName

/-- The header name that a text gives in any case. -/
def parse? (text : String) : Option HeaderName :=
  let lowered := Text.asciiLower text
  if h : isHeaderName lowered = true then some ⟨lowered, h⟩ else none

/-- The media types that the client accepts. -/
def accept : HeaderName := ⟨"accept", by decide⟩

/-- The media type of a body. -/
def contentType : HeaderName := ⟨"content-type", by decide⟩

/-- The credentials of the client. -/
def authorization : HeaderName := ⟨"authorization", by decide⟩

/-- The program that sends the request. -/
def userAgent : HeaderName := ⟨"user-agent", by decide⟩

/-- The identifier of the inbound request. -/
def requestId : HeaderName := ⟨"x-request-id", by decide⟩

/-- The distributed trace of the inbound request. -/
def traceId : HeaderName := ⟨"x-amzn-trace-id", by decide⟩

/-- The identifier that correlates the outbound requests of a trace. -/
def correlationId : HeaderName := ⟨"x-correlation-id", by decide⟩

/-- The names whose values cannot be configured. -/
def isReserved (name : HeaderName) : Bool :=
  name = accept || name = contentType || name = authorization

end HeaderName

/-- The names whose values are kept out of diagnostic texts. -/
def HeaderName.isSensitive (name : HeaderName) : Bool :=
  name = HeaderName.authorization

/-- Whether an octet can stand in a header value. -/
def isHeaderValueOctet (byte : UInt8) : Bool :=
  (32 ≤ byte.toNat && byte.toNat != 127) || byte.toNat == 9

/-- The value of a header. -/
structure HeaderValue where
  octets : List UInt8
  valid : octets.all isHeaderValueOctet = true
  deriving DecidableEq

namespace HeaderValue

/-- The header value with the given octets. -/
def ofOctets? (octets : List UInt8) : Option HeaderValue :=
  if h : octets.all isHeaderValueOctet = true then some ⟨octets, h⟩ else none

/-- The header value with the octets of a text. -/
def ofText? (text : String) : Option HeaderValue :=
  ofOctets? (Text.octets text)

/-- Whether a text can be the value of a header. -/
def isText (text : String) : Bool :=
  (Text.octets text).all isHeaderValueOctet

theorem ofText?_of_isText {text : String} (htext : isText text = true) :
    ofText? text = some ⟨Text.octets text, htext⟩ :=
  dif_pos htext

theorem ofText?_of_not_isText {text : String} (htext : ¬ isText text = true) :
    ofText? text = none :=
  dif_neg htext

/-- Whether the octet is a visible character, the space or the tab. -/
def isVisibleOctet (byte : UInt8) : Bool :=
  (32 ≤ byte.toNat && byte.toNat < 127) || byte.toNat == 9

/-- Whether the value consists of visible ASCII characters, spaces and tabs. -/
def isVisible (value : HeaderValue) : Bool :=
  value.octets.all isVisibleOctet

/-- The value as a text, if it consists of visible ASCII characters, spaces and tabs. -/
def visibleText? (value : HeaderValue) : Option String :=
  if value.octets.all isVisibleOctet then Text.ofOctets? value.octets else none

theorem visibleText?_eq_some_iff {value : HeaderValue} {text : String} :
    value.visibleText? = some text ↔ value.isVisible = true ∧ Text.octets text = value.octets := by
  rw [visibleText?, isVisible]
  split
  · next hvisible => rw [Text.ofOctets?_eq_some_iff, and_iff_right hvisible]
  · next hopaque =>
    constructor
    · intro hnone
      cases hnone
    · rintro ⟨hvisible, -⟩
      exact absurd hvisible hopaque

end HeaderValue

/-- The headers of a request, one value for each name. -/
abbrev HeaderMap := List (HeaderName × HeaderValue)

namespace HeaderMap

/-- The headers with the value of one name set. -/
def insert (name : HeaderName) (value : HeaderValue) : HeaderMap → HeaderMap
  | [] => [(name, value)]
  | (other, old) :: rest =>
    if other = name then (name, value) :: rest else (other, old) :: insert name value rest

/-- The value of a name. -/
def find? (name : HeaderName) : HeaderMap → Option HeaderValue
  | [] => none
  | (other, value) :: rest => if other = name then some value else find? name rest

/-- The names that have a value. -/
def names (headers : HeaderMap) : List HeaderName :=
  headers.map (·.1)

/-- The octets that are sent for a name. -/
def octets? (name : HeaderName) (headers : HeaderMap) : Option (List UInt8) :=
  (find? name headers).map (·.octets)

theorem octets?_eq_some_iff {name : HeaderName} {value : HeaderValue} {headers : HeaderMap} :
    octets? name headers = some value.octets ↔ find? name headers = some value := by
  rw [octets?, Option.map_eq_some_iff]
  constructor
  · rintro ⟨⟨octets, hvalid⟩, hfound, rfl⟩
    exact hfound
  · intro hfound
    exact ⟨value, hfound, rfl⟩

/-! ### Setting a header -/

section Insert

variable (name : HeaderName) (value : HeaderValue) (headers : HeaderMap)

theorem find?_insert (other : HeaderName) :
    find? other (insert name value headers) =
      if name = other then some value else find? other headers := by
  induction headers with
  | nil => rfl
  | cons field rest ih =>
    obtain ⟨first, old⟩ := field
    unfold insert
    by_cases hfirst : first = name
    · rw [if_pos hfirst, find?, find?, hfirst]
      split <;> rfl
    · rw [if_neg hfirst, find?, find?, ih]
      by_cases hname : name = other
      · rw [if_pos hname, if_pos hname, if_neg fun hsame ↦ hfirst (hsame.trans hname.symm)]
      · rw [if_neg hname, if_neg hname]

/-- A header that is set has its new value, and every other header its old one. -/
theorem octets?_insert (other : HeaderName) :
    octets? other (insert name value headers) =
      if name = other then some value.octets else octets? other headers := by
  rw [octets?, find?_insert]
  split <;> rfl

theorem mem_names_insert {other : HeaderName} :
    other ∈ names (insert name value headers) ↔ other = name ∨ other ∈ names headers := by
  induction headers with
  | nil => exact List.mem_cons
  | cons field rest ih =>
    obtain ⟨first, old⟩ := field
    unfold insert
    by_cases hfirst : first = name
    · rw [if_pos hfirst]
      simp only [names, List.map_cons, List.mem_cons, hfirst, or_self_left]
    · rw [if_neg hfirst]
      simp only [names, List.map_cons, List.mem_cons] at ih ⊢
      rw [ih, or_left_comm]

/-- Setting a header keeps one value for each name. -/
theorem nodup_names_insert {headers : HeaderMap} (hnodup : (names headers).Nodup) :
    (names (insert name value headers)).Nodup := by
  induction headers with
  | nil => exact List.pairwise_singleton _ _
  | cons field rest ih =>
    obtain ⟨first, old⟩ := field
    obtain ⟨habsent, hrest⟩ := List.nodup_cons.mp hnodup
    unfold insert
    by_cases hfirst : first = name
    · rw [if_pos hfirst]
      exact List.nodup_cons.mpr ⟨hfirst ▸ habsent, hrest⟩
    · rw [if_neg hfirst]
      refine List.nodup_cons.mpr ⟨fun hmem ↦ ?_, ih hrest⟩
      rcases (mem_names_insert name value rest).mp hmem with hsame | hold
      · exact hfirst hsame
      · exact habsent hold

end Insert

end HeaderMap

/-- The headers of an inbound request in the order received; a name may come several times. -/
abbrev HeaderFields := List (HeaderName × HeaderValue)

namespace HeaderFields

/-- The first value of a name. -/
def first? (name : HeaderName) (fields : HeaderFields) : Option HeaderValue :=
  HeaderMap.find? name fields

/-- The names that occur, each once, in the order of their first field. -/
def names (fields : HeaderFields) : List HeaderName :=
  (fields.map (·.1)).eraseDups

end HeaderFields

end ResourceLookup
