import ResourceLookup.Json.Basic
import ResourceLookup.Text.Search

/-!
# Configuration trees

A configuration is a JSON object of nested sections. `Tree.find?` follows a path of names separated
by points; an empty name ends the path. `Tree.section?` is what stands there if it is a section, and
`Tree.merge` overlays one section with another: sections meet member by member, anything else is
replaced.
-/

set_option autoImplicit false
set_option relaxedAutoImplicit false

namespace ResourceLookup.Tree

/-- The names of a path. -/
def pathNames (path : String) : List String :=
  (Text.splitWhere (· == '.') path.toList).map String.ofList

/-- What stands below a value under the given names; an empty name ends the path. -/
def follow? : List String → Json → Option Json
  | [], value => some value
  | name :: rest, value =>
    if name = "" then some value
    else
      match value with
      | .object members =>
        match Json.lookup name members with
        | some below => follow? rest below
        | none => none
      | _ => none

/-- What stands in the configuration under a path. A configuration that is no object holds
nothing. -/
def find? (config : Json) (path : String) : Option Json :=
  match config with
  | .object _ => follow? (pathNames path) config
  | _ => none

/-- The section of the configuration under a path: none if what stands there is no object. -/
def sectionAt (config : Json) (path : String) : List (String × Json) :=
  match find? config path with
  | some (.object members) => members
  | _ => []

mutual

/-- A value overlaid with another one. -/
def overlay (base : Json) : Json → Json
  | .object upper =>
    match base with
    | .object members => .object (overlayMembers members upper)
    | _ => .object upper
  | other => other
termination_by structural upper => upper

/-- Members overlaid with others, in ascending order of name. -/
def overlayMembers (members : List (String × Json)) :
    List (String × Json) → List (String × Json)
  | [] => members
  | (name, value) :: rest =>
    let merged := match Json.lookup name members with
      | some old => overlay old value
      | none => value
    overlayMembers (Json.insert name merged members) rest
termination_by structural upper => upper

end

/-- A section overlaid with another one. -/
def merge (section₁ section₂ : List (String × Json)) : List (String × Json) :=
  overlayMembers section₁ section₂

end ResourceLookup.Tree
