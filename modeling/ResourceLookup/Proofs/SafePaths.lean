import Mathlib.Data.Bool.AllAny
import ResourceLookup.Path.Safety
import ResourceLookup.Proofs.Escapes

/-!
# What safe paths are

The check of a path looks for steps to a parent directory in fifteen spellings, decodes twice, and
searches the path as well as what it decodes to. `PathSafety.ReadsSafely` says with one round of
decoding what is wanted: URI characters, complete escapes, a decoded text without escapes in which
nothing is harmful, and no stray slashes. `PathSafety.isSafePath_iff` says that the check accepts
exactly the paths that read safely and do not name a script scheme as they stand.

Each spelling in the list of the check stands for a step to a parent directory, a NUL or an escape
(`PathSafety.spellings_forbidden`). It starts with an octet that is no hexadecimal digit, so that
what it stands for is within the decoded text (`PathSafety.exists_forbidden`). The search for script
schemes in the path as it stands is no such case, because the first letter of a scheme can be the
last digit of an escape (`PathSafety.isSafePath_of_scheme_behind_escape`).
-/

set_option autoImplicit false
set_option relaxedAutoImplicit false

namespace ResourceLookup.PathSafety

/-! ### Safe reading -/

/-- The text in lower case, as far as ASCII goes. -/
def lowered (text : String) : List Char :=
  text.toList.map Text.asciiLowerChar

/-- Nothing in a lower-case text is harmful: it has no NUL, no step to a parent directory, no markup
or quote, and no script scheme. -/
structure IsHarmless (text : List Char) : Prop where
  noNul : Char.ofNat 0 ∉ text
  noStep : ∀ step ∈ ["../", "..\\"], ¬ step.toList <:+: text
  noMarkup : ∀ c ∈ text, isInjectionChar c = false
  noScript : ∀ scheme ∈ dangerousSchemes, ¬ scheme.toList <:+: text

/-- A path that is fine to read: it is made of URI characters and complete escapes, decoding it once
gives a text without escapes in which nothing is harmful, and no two slashes follow each other
behind its scheme. -/
structure ReadsSafely (path : String) : Prop where
  nonempty : path ≠ ""
  uriChars : ∀ c ∈ path.toList, isUriChar c = true
  escapes : Percent.EscapesComplete path.toList
  decoded : ∃ once, Percent.decodeText? path = some once ∧
    ¬ Percent.ContainsEscape once.toList ∧ IsHarmless (lowered once)
  slashes : ¬ ['/', '/'] <:+: withoutScheme path.toList

/-! ### The parts of the check -/

theorem mentionsAny_eq_false_iff {markers : List String} {text : List Char} :
    mentionsAny markers text = false ↔ ∀ marker ∈ markers, ¬ marker.toList <:+: text := by
  rw [mentionsAny, List.any_eq_false]
  exact forall₂_congr fun marker _ ↦ not_congr (Text.occursIn_iff_isInfix _ _)

theorem isHarmful_eq_false_iff {text : List Char} :
    isHarmful text = false ↔ IsHarmless text := by
  rw [isHarmful, Bool.or_eq_false_iff, Bool.or_eq_false_iff, Bool.or_eq_false_iff,
    mentionsAny_eq_false_iff, mentionsAny_eq_false_iff, List.contains_eq_mem,
    decide_eq_false_iff_not, List.any_eq_false]
  constructor
  · rintro ⟨⟨⟨hstep, hnul⟩, hmarkup⟩, hscript⟩
    exact ⟨hnul, hstep, fun c hc ↦ eq_false_of_ne_true (hmarkup c hc), hscript⟩
  · intro hharmless
    exact ⟨⟨⟨hharmless.noStep, hharmless.noNul⟩,
      fun c hc ↦ Bool.not_eq_true _ ▸ hharmless.noMarkup c hc⟩, hharmless.noScript⟩

/-- The plain look at a path as conditions on its characters. -/
theorem passesPlainChecks_iff {path : String} :
    passesPlainChecks path = true ↔ Text.isBlank path = false ∧ Char.ofNat 0 ∉ path.toList ∧
      (∀ spelling ∈ "%00" :: traversalMarkers, ¬ spelling.toList <:+: lowered path) ∧
      (∀ c ∈ path.toList, isUriChar c = true) ∧ Percent.EscapesComplete path.toList := by
  rw [passesPlainChecks, ← Percent.wellFormed_octets_iff, ← Text.octets_eq, List.forall_mem_cons]
  simp only [Bool.and_eq_true, Bool.not_eq_true', Text.occursIn_eq_false_iff,
    mentionsAny_eq_false_iff, List.contains_eq_mem, decide_eq_false_iff_not, List.all_eq_true,
    and_assoc, lowered]

/-- A path is accepted if it passes the plain look, decoding it twice is decoding it once, nothing
in it is harmful before or after that, and it has no stray slashes. -/
theorem isSafePath_eq_true_iff {path : String} :
    isSafePath path = true ↔ passesPlainChecks path = true ∧ ∃ once,
      Percent.decodeText? path = some once ∧ Percent.decodeText? once = some once ∧
      IsHarmless (lowered path) ∧ IsHarmless (lowered once) ∧
      ¬ ['/', '/'] <:+: withoutScheme path.toList := by
  rw [isSafePath, decide_eq_true_iff, judgePath]
  cases hplain : passesPlainChecks path with
  | false => simp
  | true =>
    cases honce : Percent.decodeText? path with
    | none => simp
    | some once =>
      cases htwice : Percent.decodeText? once with
      | none => simp [htwice]
      | some twice =>
        by_cases hsame : once = twice
        · subst hsame
          simp [htwice, ← isHarmful_eq_false_iff, ← Text.occursIn_eq_false_iff, hasStraySlashes,
            lowered, and_assoc]
        · simp [hsame, htwice, Ne.symm hsame]

/-! ### Spellings of what is forbidden -/

/-- What the spellings in the list of the check stand for: steps to a parent directory, a NUL, and
escapes. -/
def forbiddenParts : List String :=
  ["../", "..\\", "\x00", "%2e", "%2f", "%5c"]

/-- Every spelling starts with an octet that is no digit, is made of complete escapes, and stands
for something forbidden. -/
theorem spellings_forbidden : ∀ spelling ∈ "%00" :: traversalMarkers,
    (spelling.toList.all fun c ↦ c.toNat < 128) = true ∧
    ((Text.octets spelling).head?.any fun mark ↦ Percent.digitValue? mark = none) = true ∧
    Percent.wellFormed (Text.octets spelling) = true ∧
    ∃ part ∈ forbiddenParts, Text.occursIn (Text.octets part)
      ((Percent.decode (Text.octets spelling)).map Text.asciiLowerOctet) = true := by
  decide +kernel

theorem all_ascii_of_mem_forbiddenParts :
    ∀ part ∈ forbiddenParts, (part.toList.all fun c ↦ c.toNat < 128) = true := by
  decide

/-- Where a path has one of the spellings, the decoded text has what it stands for. Assumes:
complete escapes. -/
theorem exists_forbidden {path once spelling : String}
    (hspelling : spelling ∈ "%00" :: traversalMarkers)
    (hescapes : Percent.EscapesComplete path.toList)
    (honce : Percent.decodeText? path = some once)
    (hwithin : spelling.toList <:+: lowered path) :
    ∃ part ∈ forbiddenParts, part.toList <:+: lowered once := by
  obtain ⟨hascii, hmark, hwellFormed, part, hpart, hoccurs⟩ :=
    spellings_forbidden spelling hspelling
  refine ⟨part, hpart, ?_⟩
  rw [Percent.decodeText?, Text.ofOctets?_eq_some_iff] at honce
  rw [← Percent.wellFormed_octets_iff, ← Text.octets_eq] at hescapes
  obtain ⟨meaning, hmeaning, hsame⟩ := (Percent.reading_decode hescapes).lower
  rw [← honce] at hsame
  -- On octets the spelling is within the path in lower case.
  rw [← Text.octets_isInfix_iff (List.all_iff_forall_prop.mp hascii), lowered,
    Text.flatMap_utf8EncodeChar_lower, ← Text.octets_eq, ← Text.octets_eq] at hwithin
  have hneedle := Percent.reading_decode hwellFormed
  have hdecoded : Percent.decode (Text.octets spelling) <:+: meaning := by
    generalize Percent.decode (Text.octets spelling) = decoded at hneedle
    cases hoctets : Text.octets spelling with
    | nil => rw [hoctets] at hmark; cases hmark
    | cons mark rest =>
      rw [hoctets] at hmark hneedle hwithin
      exact Percent.Reading.within (by simpa using hmark) hneedle hmeaning hwithin
  rw [Text.occursIn_iff_isInfix] at hoccurs
  have hpart' := hoccurs.trans (hdecoded.map Text.asciiLowerOctet)
  have hpartAscii := List.all_iff_forall_prop.mp (all_ascii_of_mem_forbiddenParts part hpart)
  rwa [hsame, Text.octets_eq, Text.octets_eq, ← Text.flatMap_utf8EncodeChar_lower,
    Text.octets_isInfix_iff hpartAscii] at hpart'

/-- A text without escapes in which nothing is harmful has nothing forbidden. -/
theorem not_forbidden {once part : String} (hpart : part ∈ forbiddenParts)
    (hescape : ¬ Percent.ContainsEscape once.toList) (hharmless : IsHarmless (lowered once)) :
    ¬ part.toList <:+: lowered once := by
  intro hwithin
  have hdigits : ∀ high low, Percent.isHexDigit high = true → Percent.isHexDigit low = true →
      ¬ ['%', high, low] <:+: lowered once :=
    fun high low hhigh hlow hfound ↦ hescape (.of_lower ⟨high, low, hhigh, hlow, hfound⟩)
  simp only [forbiddenParts, List.mem_cons, List.not_mem_nil, or_false] at hpart
  rcases hpart with rfl | rfl | rfl | rfl | rfl | rfl
  · exact hharmless.noStep "../" (by simp) hwithin
  · exact hharmless.noStep "..\\" (by simp) hwithin
  · exact hharmless.noNul (hwithin.subset (by simp))
  · exact hdigits '2' 'e' rfl rfl hwithin
  · exact hdigits '2' 'f' rfl rfl hwithin
  · exact hdigits '5' 'c' rfl rfl hwithin

/-! ### URI characters -/

theorem lt_of_isUriChar {c : Char} (hc : isUriChar c = true) : c.toNat < 128 := by
  rw [isUriChar, Bool.or_eq_true, Bool.or_eq_true] at hc
  rcases hc with (hletter | hdigit) | hmark
  · simp only [Text.isAsciiLetter, Bool.or_eq_true, Bool.and_eq_true, decide_eq_true_eq] at hletter
    omega
  · simp only [Text.isAsciiDigit, Bool.and_eq_true, decide_eq_true_eq] at hdigit
    omega
  · have hmarks : (uriMarks.all fun c ↦ c.toNat < 128) = true := by decide
    exact List.all_iff_forall_prop.mp hmarks c (List.contains_iff_mem.mp hmark)

/-- A URI character is neither white nor, in lower case, a NUL, markup or a quote. -/
theorem plain_of_isUriChar (c : Char) (hascii : c.toNat < 128) : isUriChar c = true →
    Text.isWhite c = false ∧ c ≠ Char.ofNat 0 ∧ Text.asciiLowerChar c ≠ Char.ofNat 0 ∧
      isInjectionChar (Text.asciiLowerChar c) = false := by
  revert c
  exact Text.forall_ascii (by decide +kernel)

/-- A path of URI characters that is not empty is not blank. -/
theorem isBlank_eq_false {path : String} (hnonempty : path ≠ "")
    (huri : ∀ c ∈ path.toList, isUriChar c = true) : Text.isBlank path = false := by
  rw [Text.isBlank, ← Bool.not_eq_true, List.all_eq_true]
  intro hwhite
  cases hpath : path.toList with
  | nil => exact hnonempty (String.toList_eq_nil_iff.mp hpath)
  | cons c rest =>
    have hc : c ∈ path.toList := by rw [hpath]; exact List.mem_cons_self
    have hplain := plain_of_isUriChar c (lt_of_isUriChar (huri c hc)) (huri c hc)
    exact Bool.false_ne_true (hplain.1.symm.trans (hwhite c hc))

/-! ### The meaning of the check -/

/-- What the check of a path means. It accepts exactly the paths that read safely and have no script
scheme as they stand. -/
theorem isSafePath_iff (path : String) :
    isSafePath path = true ↔
      ReadsSafely path ∧ ∀ scheme ∈ dangerousSchemes, ¬ scheme.toList <:+: lowered path := by
  rw [isSafePath_eq_true_iff, passesPlainChecks_iff]
  constructor
  · rintro ⟨⟨hblank, -, -, huri, hescapes⟩, once, honce, htwice, hpath, hdecoded, hslashes⟩
    refine ⟨⟨?_, huri, hescapes, ⟨once, honce, ?_, hdecoded⟩, hslashes⟩, hpath.noScript⟩
    · rintro rfl
      cases hblank
    · exact Percent.decodeText?_eq_self_iff.mp htwice
  · rintro ⟨hreads, hscheme⟩
    obtain ⟨once, honce, hescape, hharmless⟩ := hreads.decoded
    have hspellings : ∀ spelling ∈ "%00" :: traversalMarkers,
        ¬ spelling.toList <:+: lowered path := by
      intro spelling hspelling hwithin
      obtain ⟨part, hpart, hfound⟩ := exists_forbidden hspelling hreads.escapes honce hwithin
      exact not_forbidden hpart hescape hharmless hfound
    have hplain : ∀ c ∈ path.toList, c ≠ Char.ofNat 0 ∧
        Text.asciiLowerChar c ≠ Char.ofNat 0 ∧ isInjectionChar (Text.asciiLowerChar c) = false :=
      fun c hc ↦
        (plain_of_isUriChar c (lt_of_isUriChar (hreads.uriChars c hc)) (hreads.uriChars c hc)).2
    have hsteps : ∀ step ∈ ["../", "..\\"], step ∈ "%00" :: traversalMarkers := by decide
    have hpath : IsHarmless (lowered path) := by
      refine ⟨?_, fun step hstep ↦ hspellings step (hsteps step hstep), ?_, hscheme⟩
      · intro hnul
        obtain ⟨c, hc, hlower⟩ := List.mem_map.mp hnul
        exact (hplain c hc).2.1 hlower
      · intro lower hlower
        obtain ⟨c, hc, rfl⟩ := List.mem_map.mp hlower
        exact (hplain c hc).2.2
    exact ⟨⟨isBlank_eq_false hreads.nonempty hreads.uriChars, fun hnul ↦ (hplain _ hnul).1 rfl,
      hspellings, hreads.uriChars, hreads.escapes⟩, once, honce,
      Percent.decodeText?_eq_self_iff.mpr hescape, hpath, hharmless, hreads.slashes⟩

/-- A path that reads safely and is refused: the last digit of an escape and the letters behind it
spell a script scheme. -/
theorem isSafePath_of_scheme_behind_escape :
    ¬ (isSafePath "/v1/a%2Data:b" = true ↔ ReadsSafely "/v1/a%2Data:b") := by
  have hreads : ReadsSafely "/v1/a%2Data:b" := by
    have huri : "/v1/a%2Data:b".toList.all isUriChar = true := by decide
    refine ⟨by decide, List.all_eq_true.mp huri, ?_, ⟨"/v1/a-ata:b", ?_, ?_, ?_⟩, ?_⟩
    · rw [← Percent.wellFormed_octets_iff]
      decide
    · decide +kernel
    · rw [← Percent.decodeText?_eq_self_iff]
      decide +kernel
    · rw [← isHarmful_eq_false_iff]
      decide +kernel
    · rw [← Text.occursIn_eq_false_iff]
      decide +kernel
  have hrefused : isSafePath "/v1/a%2Data:b" = false := by decide +kernel
  intro hsame
  exact Bool.false_ne_true (hrefused.symm.trans (hsame.mpr hreads))

end ResourceLookup.PathSafety
