import Mathlib.Data.List.Sort
import ResourceLookup.Failure.Key

/-!
# What keys tell apart

The key of a lookup is a readable part and a digest. Two lookups that differ in their repositories
or in their types differ in the readable part or in the octets under the digest, whatever characters
their names are made of. A colon within a name makes the readable part ambiguous, but at the end of
the shorter repository there is a colon in the readable part and a record separator in the octets
(`eq_of_append_cons`).

Of the identifiers the octets tell what is between unit separators (`keyUnits`), and nothing else.
For identifiers that have none within them this is the set of identifiers (`keyUnits_eq_iff`), and
then lookups with different sets of identifiers are told apart as well (`keyParts_differ`). An
identifier with a unit separator within it passes for two (`keyParts_same_of_separated`).
-/

set_option autoImplicit false
set_option relaxedAutoImplicit false

namespace ResourceLookup

/-- The record separator as a character. -/
def recordMark : Char := '\x1e'

/-- The unit separator as a character. -/
def unitMark : Char := '\x1f'

/-- The identifiers in ascending order, with a unit separator behind each. -/
def terminatedIds (identifiers : List String) : List Char :=
  (Text.sortedSet identifiers).flatMap fun identifier ↦ identifier.toList ++ [unitMark]

/-- What is between unit separators in the ascending identifiers: an identifier with separators
within it makes several units. -/
def keyUnits (identifiers : List String) : List (List Char) :=
  (Text.sortedSet identifiers).flatMap fun identifier ↦ identifier.toList.splitOn unitMark

/-! ### Sets of identifiers -/

/-- Two lists give the same ascending list exactly if they have the same members. -/
theorem Text.sortedSet_eq_iff {first second : List String} :
    sortedSet first = sortedSet second ↔ ∀ text, text ∈ first ↔ text ∈ second := by
  constructor
  · intro hsame text
    rw [← mem_sortedSet, hsame, mem_sortedSet]
  · intro hsame
    refine (pairwise_sortedSet first).eq_of_mem_iff (pairwise_sortedSet second) fun text ↦ ?_
    rw [mem_sortedSet, mem_sortedSet, hsame text]

/-- The key of a lookup depends on the set of its identifiers only. -/
theorem lookupKey_congr (repository lookupType : String) {first second : List String}
    (hsame : ∀ id, id ∈ first ↔ id ∈ second) :
    lookupKey repository lookupType first = lookupKey repository lookupType second := by
  rw [lookupKey, lookupKey, keyMaterial, keyMaterial, Text.sortedSet_eq_iff.mpr hsame]

/-! ### Marks in texts -/

section Marks

variable {first second : List Char} {mark : Char}

/-- Cutting texts with a mark behind each at the marks is cutting every one of them. -/
theorem splitOn_flatMap_concat (mark : Char) (texts : List (List Char)) :
    (texts.flatMap fun text ↦ text ++ [mark]).splitOn mark =
      (texts.flatMap fun text ↦ text.splitOn mark) ++ [[]] := by
  induction texts with
  | nil => rfl
  | cons text rest ih =>
    have hcut : (text ++ mark :: rest.flatMap fun text ↦ text ++ [mark]).splitOn mark =
        text.splitOn mark ++ (rest.flatMap fun text ↦ text ++ [mark]).splitOn mark :=
      List.splitOnP_append_cons _ _ (beq_self_eq_true mark)
    rw [List.flatMap_cons, List.flatMap_cons, List.append_assoc, List.singleton_append, hcut, ih,
      List.append_assoc]

/-- Nothing is lost when a text is cut at the marks. -/
theorem splitOn_inj (mark : Char) : first.splitOn mark = second.splitOn mark ↔ first = second := by
  refine ⟨fun hsame ↦ ?_, congrArg _⟩
  have hfirst : [mark].intercalate (first.splitOn mark) = first := List.intercalate_splitOn mark
  rw [← hfirst, hsame, List.intercalate_splitOn]

/-- A text ends where one mark is next to it and another one is next to it. -/
theorem eq_of_append_cons {other : Char} {behind₁ behind₂ further₁ further₂ : List Char}
    (hmarks : mark ≠ other) (hmark : first ++ mark :: behind₁ = second ++ mark :: behind₂)
    (hother : first ++ other :: further₁ = second ++ other :: further₂) : first = second := by
  have hlonger : ∀ {shorter longer behind behind' further further' : List Char},
      longer ++ mark :: behind' = shorter ++ mark :: behind →
      longer ++ other :: further' = shorter ++ other :: further →
      ∀ middle, longer = shorter ++ middle → middle = [] := by
    rintro shorter longer behind behind' further further' hmark hother middle rfl
    cases middle with
    | nil => rfl
    | cons next rest =>
      rw [List.append_assoc, List.append_cancel_left_eq] at hmark hother
      have hnext : next = mark := (List.cons.inj hmark).1
      exact absurd (hnext.symm.trans (List.cons.inj hother).1) hmarks
  rcases List.append_eq_append_iff.mp hmark with ⟨middle, hsecond, -⟩ | ⟨middle, hfirst, -⟩
  · have hnone := hlonger hmark.symm hother.symm middle hsecond
    rw [hsecond, hnone, List.append_nil]
  · have hnone := hlonger hmark hother middle hfirst
    rw [hfirst, hnone, List.append_nil]

end Marks

/-! ### The parts of keys -/

variable {repository₁ repository₂ lookupType₁ lookupType₂ : String}
  {identifiers₁ identifiers₂ : List String}

/-- The octets of a key are those of one text. -/
theorem keyMaterial_eq (repository lookupType : String) (identifiers : List String) :
    keyMaterial repository lookupType identifiers =
      Text.octets (String.ofList (repository.toList ++
        recordMark :: (lookupType.toList ++ recordMark :: terminatedIds identifiers))) := by
  have hrecord : String.utf8EncodeChar recordMark = [recordSeparator] :=
    Text.utf8EncodeChar_of_lt (by decide)
  have hunit : String.utf8EncodeChar unitMark = [unitSeparator] :=
    Text.utf8EncodeChar_of_lt (by decide)
  have hids : (terminatedIds identifiers).flatMap String.utf8EncodeChar =
      (Text.sortedSet identifiers).flatMap fun identifier ↦
        Text.octets identifier ++ [unitSeparator] := by
    rw [terminatedIds, List.flatMap_assoc]
    simp only [List.flatMap_append, List.flatMap_singleton, hunit, Text.octets_eq]
  rw [Text.octets_ofList]
  simp only [keyMaterial, List.flatMap_append, List.flatMap_cons, hrecord, hids, Text.octets_eq,
    List.append_assoc]

/-- The octets of two keys are the same exactly if their texts are. -/
theorem keyMaterial_eq_iff :
    keyMaterial repository₁ lookupType₁ identifiers₁ =
        keyMaterial repository₂ lookupType₂ identifiers₂ ↔
      repository₁.toList ++
          recordMark :: (lookupType₁.toList ++ recordMark :: terminatedIds identifiers₁) =
        repository₂.toList ++
          recordMark :: (lookupType₂.toList ++ recordMark :: terminatedIds identifiers₂) := by
  rw [keyMaterial_eq, keyMaterial_eq, Text.octets_inj, ← String.toList_inj, String.toList_ofList,
    String.toList_ofList]

/-- Texts joined by colons behind the same lead are the same exactly if the two parts, with a colon
between them, are. -/
theorem joined_inj {lead front₁ back₁ front₂ back₂ : String} :
    lead ++ front₁ ++ ":" ++ back₁ ++ ":" = lead ++ front₂ ++ ":" ++ back₂ ++ ":" ↔
      front₁.toList ++ ':' :: back₁.toList = front₂.toList ++ ':' :: back₂.toList := by
  have hcolon : ":".toList = [':'] := by decide
  have hchars : ∀ front back : String, (lead ++ front ++ ":" ++ back ++ ":").toList =
      lead.toList ++ ((front.toList ++ ':' :: back.toList) ++ [':']) := by
    intro front back
    simp only [String.toList_append, hcolon, List.append_assoc, List.nil_append, List.cons_append]
  rw [← String.toList_inj, hchars, hchars, List.append_cancel_left_eq,
    List.append_cancel_right_eq]

/-- The readable parts of two keys are the same exactly if repository and type, with a colon between
them, are. -/
theorem keyScope_eq_iff :
    keyScope repository₁ lookupType₁ = keyScope repository₂ lookupType₂ ↔
      repository₁.toList ++ ':' :: lookupType₁.toList =
        repository₂.toList ++ ':' :: lookupType₂.toList :=
  joined_inj

theorem terminatedIds_eq_iff :
    terminatedIds identifiers₁ = terminatedIds identifiers₂ ↔
      keyUnits identifiers₁ = keyUnits identifiers₂ := by
  have hcut : ∀ identifiers,
      (terminatedIds identifiers).splitOn unitMark = keyUnits identifiers ++ [[]] := by
    intro identifiers
    have hmapped := splitOn_flatMap_concat unitMark
      ((Text.sortedSet identifiers).map String.toList)
    rw [List.flatMap_map, List.flatMap_map] at hmapped
    exact hmapped
  rw [← splitOn_inj unitMark, hcut, hcut, List.append_cancel_right_eq]

/-- Without unit separators within identifiers, the units are the set of identifiers. -/
theorem keyUnits_eq_iff (hids₁ : ∀ id ∈ identifiers₁, unitMark ∉ id.toList)
    (hids₂ : ∀ id ∈ identifiers₂, unitMark ∉ id.toList) :
    keyUnits identifiers₁ = keyUnits identifiers₂ ↔
      ∀ id, id ∈ identifiers₁ ↔ id ∈ identifiers₂ := by
  have hwhole : ∀ {identifiers : List String}, (∀ id ∈ identifiers, unitMark ∉ id.toList) →
      keyUnits identifiers = (Text.sortedSet identifiers).map String.toList := by
    intro identifiers hids
    rw [keyUnits, List.map_eq_flatMap]
    refine List.flatMap_congr fun id hid ↦ List.splitOnP_eq_singleton fun c hc ↦ ?_
    refine beq_eq_false_iff_ne.mpr ?_
    rintro rfl
    exact hids id (Text.mem_sortedSet.mp hid) hc
  have hinj : Function.Injective String.toList := fun _ _ hsame ↦ String.toList_inj.mp hsame
  rw [hwhole hids₁, hwhole hids₂, (List.map_injective_iff.mpr hinj).eq_iff, Text.sortedSet_eq_iff]

/-- Two keys are made of the same parts exactly for the same repository, the same type and the same
units. -/
theorem keyParts_eq_iff :
    keyScope repository₁ lookupType₁ = keyScope repository₂ lookupType₂ ∧
        keyMaterial repository₁ lookupType₁ identifiers₁ =
          keyMaterial repository₂ lookupType₂ identifiers₂ ↔
      repository₁ = repository₂ ∧ lookupType₁ = lookupType₂ ∧
        keyUnits identifiers₁ = keyUnits identifiers₂ := by
  rw [keyScope_eq_iff, keyMaterial_eq_iff]
  constructor
  · rintro ⟨hscope, hmaterial⟩
    have hrepository : repository₁.toList = repository₂.toList :=
      eq_of_append_cons (by decide) hmaterial hscope
    rw [hrepository, List.append_cancel_left_eq, List.cons.injEq] at hscope hmaterial
    have hids := hmaterial.2
    rw [hscope.2, List.append_cancel_left_eq, List.cons.injEq] at hids
    exact ⟨String.toList_inj.mp hrepository, String.toList_inj.mp hscope.2,
      terminatedIds_eq_iff.mp hids.2⟩
  · rintro ⟨rfl, rfl, hunits⟩
    exact ⟨rfl, by rw [terminatedIds_eq_iff.mpr hunits]⟩

/-- Distinct lookups have keys of different parts, whatever characters their names are made of. The
readable parts or the octets differ exactly if the repositories, the types or the units of the
identifiers do. Without unit separators within identifiers they differ for different sets of
identifiers. -/
theorem keyParts_differ (repository₁ lookupType₁ : String) (identifiers₁ : List String)
    (repository₂ lookupType₂ : String) (identifiers₂ : List String) :
    (keyScope repository₁ lookupType₁ ≠ keyScope repository₂ lookupType₂ ∨
        keyMaterial repository₁ lookupType₁ identifiers₁ ≠
          keyMaterial repository₂ lookupType₂ identifiers₂ ↔
      repository₁ ≠ repository₂ ∨ lookupType₁ ≠ lookupType₂ ∨
        keyUnits identifiers₁ ≠ keyUnits identifiers₂) ∧
    ((∀ id ∈ identifiers₁ ++ identifiers₂, unitMark ∉ id.toList) →
      (¬ ∀ id, id ∈ identifiers₁ ↔ id ∈ identifiers₂) →
      keyScope repository₁ lookupType₁ ≠ keyScope repository₂ lookupType₂ ∨
        keyMaterial repository₁ lookupType₁ identifiers₁ ≠
          keyMaterial repository₂ lookupType₂ identifiers₂) := by
  have hdifferent : keyScope repository₁ lookupType₁ ≠ keyScope repository₂ lookupType₂ ∨
        keyMaterial repository₁ lookupType₁ identifiers₁ ≠
          keyMaterial repository₂ lookupType₂ identifiers₂ ↔
      repository₁ ≠ repository₂ ∨ lookupType₁ ≠ lookupType₂ ∨
        keyUnits identifiers₁ ≠ keyUnits identifiers₂ := by
    rw [← not_iff_not, not_or, not_or, not_or, not_ne_iff, not_ne_iff, not_ne_iff, not_ne_iff,
      not_ne_iff]
    exact keyParts_eq_iff
  refine ⟨hdifferent, fun hseparated hsets ↦ hdifferent.mpr (.inr (.inr ?_))⟩
  rw [List.forall_mem_append] at hseparated
  exact fun hunits ↦ hsets ((keyUnits_eq_iff hseparated.1 hseparated.2).mp hunits)

/-- The same readable part, with a colon in either name, and different octets. -/
theorem keyParts_differ_colon :
    keyScope "a:b" "c" = keyScope "a" "b:c" ∧
      keyMaterial "a:b" "c" ["1"] ≠ keyMaterial "a" "b:c" ["1"] := by
  have hscope : keyScope "a:b" "c" = keyScope "a" "b:c" := by
    rw [keyScope_eq_iff]
    decide
  have hparts := (keyParts_differ "a:b" "c" ["1"] "a" "b:c" ["1"]).1.mpr (.inl (by decide))
  exact ⟨hscope, hparts.resolve_left fun hdifferent ↦ hdifferent hscope⟩

/-- An identifier with a unit separator within it passes for two: the sets differ, and no part of
the key does. -/
theorem keyParts_same_of_separated :
    ¬ ((¬ ∀ id, id ∈ ["a\x1fb"] ↔ id ∈ ["a", "b"]) →
      keyScope "products" "by_id" ≠ keyScope "products" "by_id" ∨
        keyMaterial "products" "by_id" ["a\x1fb"] ≠ keyMaterial "products" "by_id" ["a", "b"]) := by
  have hunits : keyUnits ["a\x1fb"] = keyUnits ["a", "b"] := by decide
  have hsame : keyMaterial "products" "by_id" ["a\x1fb"] =
      keyMaterial "products" "by_id" ["a", "b"] :=
    (keyParts_eq_iff.mpr ⟨rfl, rfl, hunits⟩).2
  have hsets : ¬ ∀ id, id ∈ ["a\x1fb"] ↔ id ∈ ["a", "b"] :=
    fun hsets ↦ absurd ((hsets "a").mpr (.head _)) (by decide)
  intro hdiffer
  exact (hdiffer hsets).elim (absurd rfl) (absurd hsame)

end ResourceLookup
