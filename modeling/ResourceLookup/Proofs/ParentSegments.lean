import ResourceLookup.Proofs.SafePaths

/-!
# Segments of safe paths

The segments of an address are what slashes and backslashes leave of the part in front of the query
and the fragment (`PathSafety.segments`). A safe path has no segment that leads to the parent
directory and has another one behind it, neither as it stands nor decoded
(`PathSafety.isSafePath_parent_last`). A segment with another one behind it is followed by a slash
or a backslash (`Text.exists_mark_of_splitWhere`), and a safe path has no two dots in front of
those.

The last segment has neither behind it, and no check looks at it
(`PathSafety.isSafePath_of_parent_last`).
-/

set_option autoImplicit false
set_option relaxedAutoImplicit false

namespace ResourceLookup

namespace Text

variable {α : Type} {isMark : α → Bool} {text part next : List α} {before behind : List (List α)}

/-- The first part ends at a mark, and the other parts are those of what is behind it. -/
theorem exists_rest_of_splitWhere (hparts : splitWhere isMark text = part :: next :: behind) :
    ∃ mark rest, isMark mark = true ∧ text = part ++ mark :: rest ∧
      splitWhere isMark rest = next :: behind := by
  induction text generalizing part with
  | nil => cases hparts
  | cons head text ih =>
    rw [splitWhere] at hparts
    split at hparts
    · next hmark =>
      obtain ⟨rfl, hrest⟩ := List.cons.inj hparts
      exact ⟨head, text, hmark, rfl, hrest⟩
    · cases hsplit : splitWhere isMark text with
      | nil => exact absurd hsplit (splitWhere_ne_nil isMark text)
      | cons first parts =>
        rw [hsplit] at hparts
        obtain ⟨rfl, rfl⟩ := List.cons.inj hparts
        obtain ⟨mark, rest, hmark, rfl, hrest⟩ := ih hsplit
        exact ⟨mark, rest, hmark, rfl, hrest⟩

/-- A part with another one behind it is followed by a mark. -/
theorem exists_mark_of_splitWhere
    (hparts : splitWhere isMark text = before ++ part :: next :: behind) :
    ∃ mark, isMark mark = true ∧ part ++ [mark] <:+: text := by
  induction before generalizing text with
  | nil =>
    obtain ⟨mark, rest, hmark, rfl, -⟩ := exists_rest_of_splitWhere hparts
    exact ⟨mark, hmark, [], rest, by simp⟩
  | cons first before ih =>
    obtain ⟨second, parts, hsecond⟩ : ∃ second parts,
        before ++ part :: next :: behind = second :: parts := by
      cases before <;> exact ⟨_, _, rfl⟩
    rw [List.cons_append, hsecond] at hparts
    obtain ⟨mark, rest, -, rfl, hrest⟩ := exists_rest_of_splitWhere hparts
    obtain ⟨mark', hmark', hwithin⟩ := ih (hrest.trans hsecond.symm)
    refine ⟨mark', hmark', hwithin.trans ?_⟩
    exact ((List.suffix_cons mark rest).trans (List.suffix_append first _)).isInfix

end Text

namespace PathSafety

/-- What ends the path of an address: the query or the fragment. -/
def endsPath (c : Char) : Bool :=
  c == '?' || c == '#'

/-- What stands between the segments of a path. -/
def isSegmentMark (c : Char) : Bool :=
  c == '/' || c == '\\'

/-- The segments of an address in front of its query and its fragment. -/
def segments (address : String) : List (List Char) :=
  Text.splitWhere isSegmentMark (address.toList.takeWhile fun c ↦ !endsPath c)

/-- The segment that leads to the parent directory. -/
def parentSegment : List Char :=
  ['.', '.']

/-- A text in which nothing is harmful in lower case has no parent segment but the last one. -/
theorem parent_last_of_harmless {text : String} (hharmless : IsHarmless (lowered text))
    {before behind : List (List Char)}
    (hsegments : segments text = before ++ parentSegment :: behind) : behind = [] := by
  cases behind with
  | nil => rfl
  | cons next behind =>
    obtain ⟨mark, hmark, hwithin⟩ := Text.exists_mark_of_splitWhere hsegments
    have hlower := (hwithin.trans (List.takeWhile_prefix _).isInfix).map Text.asciiLowerChar
    rw [isSegmentMark, Bool.or_eq_true, beq_iff_eq, beq_iff_eq] at hmark
    rcases hmark with rfl | rfl
    · exact absurd hlower (hharmless.noStep "../" (by simp))
    · exact absurd hlower (hharmless.noStep "..\\" (by simp))

/-- Safe paths do not climb on the way. A safe path can be decoded, and neither as it stands nor
decoded has it a parent segment with another segment behind it: it has a parent segment exactly if
that is the last one. -/
theorem isSafePath_parent_last {path : String} (hsafe : isSafePath path = true) :
    ∃ once, Percent.decodeText? path = some once ∧ ∀ text ∈ [path, once],
      (∀ before behind, segments text = before ++ parentSegment :: behind → behind = []) ∧
      (parentSegment ∈ segments text ↔ (segments text).getLast? = some parentSegment) := by
  obtain ⟨-, once, honce, -, hpath, hdecoded, -⟩ := isSafePath_eq_true_iff.mp hsafe
  refine ⟨once, honce, fun text htext ↦ ?_⟩
  have hharmless : IsHarmless (lowered text) := by
    simp only [List.mem_cons, List.not_mem_nil, or_false] at htext
    rcases htext with rfl | rfl
    · exact hpath
    · exact hdecoded
  have hlast : ∀ before behind, segments text = before ++ parentSegment :: behind → behind = [] :=
    fun _ _ ↦ parent_last_of_harmless hharmless
  refine ⟨hlast, fun hmem ↦ ?_, List.mem_of_getLast?⟩
  obtain ⟨before, behind, hsegments⟩ := List.append_of_mem hmem
  rw [hsegments, hlast before behind hsegments, List.getLast?_concat]

/-- A parent segment that only decoding shows. -/
theorem isSafePath_parent_last_escaped :
    isSafePath "/v1/%2E%2E?page=2" = true ∧
      Percent.decodeText? "/v1/%2E%2E?page=2" = some "/v1/..?page=2" ∧
      (segments "/v1/..?page=2").getLast? = some parentSegment := by
  have hsafe : isSafePath "/v1/%2E%2E?page=2" = true := by decide +kernel
  have honce : Percent.decodeText? "/v1/%2E%2E?page=2" = some "/v1/..?page=2" := by decide +kernel
  obtain ⟨once, hdecoded, htexts⟩ := isSafePath_parent_last hsafe
  obtain rfl := Option.some.inj (hdecoded.symm.trans honce)
  exact ⟨hsafe, honce, (htexts _ (by simp)).2.mp (by decide)⟩

/-- A safe path that leads to the parent directory, because nothing stands behind its last
segment. -/
theorem isSafePath_of_parent_last :
    ¬ (isSafePath "/v1/.." = true → parentSegment ∉ segments "/v1/..") := by
  intro hclimbs
  exact hclimbs (by decide +kernel) (by decide)

end PathSafety

end ResourceLookup
