import ResourceLookup.Event
import ResourceLookup.Header.Basic

/-!
# The inbound request

While it serves a request, the program sees the headers of that request as a `RequestContext` and
never changes them. `RequestContext.header?` is the first value of a name, where it is text and not
blank.

Main statement: what is read for a name has the octets of its first value, which is visible
(`RequestContext.valueOf?_eq_some_iff`).
-/

set_option autoImplicit false
set_option relaxedAutoImplicit false

namespace ResourceLookup

/-- The headers of the request that is being served. -/
structure RequestContext where
  fields : HeaderFields
  deriving DecidableEq

namespace RequestContext

/-- A request with the given headers. -/
def ofFields (fields : HeaderFields) : RequestContext := ⟨fields⟩

/-- A request without headers. -/
def empty : RequestContext := ⟨[]⟩

/-- The request with one more header; a name or a value that is none is skipped with an event. -/
def withHeader (context : RequestContext) (name value : String) : RequestContext × List Event :=
  match HeaderName.parse? name, HeaderValue.ofText? value with
  | some name, some value => (⟨context.fields ++ [(name, value)]⟩, [])
  | _, _ => (context, [.contextHeaderSkipped])

/-- The first value of a header, where it is visible text and not blank. -/
def valueOf? (context : RequestContext) (name : HeaderName) : Option String :=
  match HeaderFields.first? name context.fields with
  | none => none
  | some value =>
    match value.visibleText? with
    | none => none
    | some text => if Text.isBlank text then none else some text

/-- The first value of a header given by its name in any case. -/
def header? (context : RequestContext) (name : String) : Option String :=
  match HeaderName.parse? name with
  | some name => context.valueOf? name
  | none => none

/-- The identifier of the request. -/
def requestId? (context : RequestContext) : Option String :=
  context.valueOf? .requestId

/-- The trace that the request belongs to. -/
def traceId? (context : RequestContext) : Option String :=
  context.valueOf? .traceId

/-! ### What is read -/

variable {context : RequestContext} {name : HeaderName} {text : String}

theorem valueOf?_of_first {value : HeaderValue}
    (hfirst : HeaderFields.first? name context.fields = some value) :
    context.valueOf? name = some text ↔
      value.isVisible = true ∧ Text.octets text = value.octets ∧ Text.isBlank text = false := by
  rw [valueOf?, hfirst, ← and_assoc, ← HeaderValue.visibleText?_eq_some_iff]
  dsimp only
  cases value.visibleText? with
  | none => simp
  | some other =>
    dsimp only
    split
    · next hblank =>
      constructor
      · intro hnone
        cases hnone
      · rintro ⟨hsame, hfull⟩
        obtain rfl : other = text := Option.some.inj hsame
        exact absurd (hblank.symm.trans hfull) (by decide)
    · next hfull =>
      constructor
      · intro hsame
        obtain rfl : other = text := Option.some.inj hsame
        exact ⟨rfl, Bool.eq_false_iff.mpr hfull⟩
      · exact And.left

/-- What is read for a name has the octets of its first value, which is visible and not blank. -/
theorem valueOf?_eq_some_iff :
    context.valueOf? name = some text ↔
      ∃ value, HeaderFields.first? name context.fields = some value ∧ value.isVisible = true ∧
        Text.octets text = value.octets ∧ Text.isBlank text = false := by
  cases hfirst : HeaderFields.first? name context.fields with
  | none => simp [valueOf?, hfirst]
  | some value => simp [valueOf?_of_first hfirst]

/-- What is read for a name can be sent. -/
theorem isText_of_valueOf? (hread : context.valueOf? name = some text) :
    HeaderValue.isText text = true := by
  obtain ⟨value, -, -, hoctets, -⟩ := valueOf?_eq_some_iff.mp hread
  rw [HeaderValue.isText, hoctets]
  exact value.valid

end RequestContext

end ResourceLookup
