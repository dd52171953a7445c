import Mathlib.Data.List.Basic
import ResourceLookup.Repository.Lookup

/-!
# The identifiers of a lookup

A lookup asks for the texts it is given, trimmed and without blank ones (`nonblankIds`), where one
may stand several times. `ListsFirst` says that a list has the chosen ones among such texts, each
once and in the order of their first occurrences. `normalizeIds` lists all of them in this way
(`listsFirst_normalizeIds`), and a part of such a list is a list of the same kind
(`ListsFirst.filter`).
-/

set_option autoImplicit false
set_option relaxedAutoImplicit false

namespace ResourceLookup

/-- The texts of a lookup without white space around them and without blank ones. -/
def nonblankIds (ids : List String) : List String :=
  (ids.map Text.trim).filter (· ≠ "")

/-- A list has exactly the chosen texts, each once, in the order of their first occurrences. -/
structure ListsFirst (texts : List String) (chosen : String → Prop) (listed : List String) :
    Prop where
  mem_iff : ∀ text, text ∈ listed ↔ text ∈ texts ∧ chosen text
  ordered : listed.Pairwise fun first second ↦ texts.idxOf first < texts.idxOf second

namespace ListsFirst

variable {texts listed : List String} {chosen other : String → Prop} {text : String}

theorem congr (hlists : ListsFirst texts chosen listed)
    (hsame : ∀ text ∈ texts, chosen text ↔ other text) : ListsFirst texts other listed where
  mem_iff text := by
    rw [hlists.mem_iff]
    exact and_congr_right (hsame text)
  ordered := hlists.ordered

theorem nil : ListsFirst [] chosen [] where
  mem_iff := by simp
  ordered := .nil

/-- A text in front that is not chosen changes nothing. -/
theorem cons_of_not (hlists : ListsFirst texts chosen listed) (htext : ¬ chosen text) :
    ListsFirst (text :: texts) chosen listed where
  mem_iff other := by
    rw [hlists.mem_iff, List.mem_cons]
    refine ⟨fun ⟨hmem, hchosen⟩ ↦ ⟨.inr hmem, hchosen⟩, fun ⟨hmem, hchosen⟩ ↦ ⟨?_, hchosen⟩⟩
    rcases hmem with rfl | hmem
    · exact absurd hchosen htext
    · exact hmem
  ordered := by
    refine hlists.ordered.imp_of_mem fun {first second} hfirst hsecond hbefore ↦ ?_
    have hne : ∀ other ∈ listed, text ≠ other := by
      rintro other hother rfl
      exact htext ((hlists.mem_iff text).mp hother).2
    rw [List.idxOf_cons_ne _ (hne first hfirst), List.idxOf_cons_ne _ (hne second hsecond)]
    exact Nat.succ_lt_succ hbefore

/-- A chosen text in front comes first, and is left out of what follows. -/
theorem cons (hlists : ListsFirst texts (fun other ↦ chosen other ∧ other ≠ text) listed)
    (htext : chosen text) : ListsFirst (text :: texts) chosen (text :: listed) where
  mem_iff other := by
    rw [List.mem_cons, List.mem_cons, hlists.mem_iff]
    by_cases hother : other = text
    · simp [hother, htext]
    · simp [hother]
  ordered := by
    have hrest : ListsFirst (text :: texts) _ listed :=
      hlists.cons_of_not fun hchosen ↦ hchosen.2 rfl
    refine .cons (fun other hother ↦ ?_) hrest.ordered
    have hne : text ≠ other := ((hlists.mem_iff other).mp hother).2.2.symm
    rw [List.idxOf_cons_self, List.idxOf_cons_ne _ hne]
    exact Nat.succ_pos _

/-- A part of a list of first occurrences is one of those that are chosen in addition. -/
theorem filter (hlists : ListsFirst texts chosen listed) (test : String → Bool) :
    ListsFirst texts (fun text ↦ chosen text ∧ test text = true) (listed.filter test) where
  mem_iff text := by rw [List.mem_filter, hlists.mem_iff, and_assoc]
  ordered := hlists.ordered.filter test

end ListsFirst

/-! ### Normalizing -/

theorem nonblankIds_cons_of_blank {id : String} (rest : List String) (hblank : Text.trim id = "") :
    nonblankIds (id :: rest) = nonblankIds rest := by
  simp [nonblankIds, hblank]

theorem nonblankIds_cons {id : String} (rest : List String) (hblank : Text.trim id ≠ "") :
    nonblankIds (id :: rest) = Text.trim id :: nonblankIds rest := by
  simp [nonblankIds, hblank]

/-- The identifiers that were not seen before are listed. -/
theorem listsFirst_distinctIds (seen ids : List String) :
    ListsFirst (nonblankIds ids) (· ∉ seen) (distinctIds seen ids) := by
  induction ids generalizing seen with
  | nil => exact .nil
  | cons id rest ih =>
    rw [distinctIds]
    by_cases hblank : Text.trim id = ""
    · simp only [hblank, decide_true, Bool.true_or, if_true]
      rw [nonblankIds_cons_of_blank rest hblank]
      exact ih seen
    · rw [nonblankIds_cons rest hblank]
      by_cases hseen : Text.trim id ∈ seen
      · simp only [hblank, hseen, List.contains_iff_mem, decide_false, Bool.false_or, if_true]
        exact (ih seen).cons_of_not fun hnew ↦ hnew hseen
      · simp only [hblank, hseen, List.contains_iff_mem, decide_false, Bool.false_or, if_false]
        refine ListsFirst.cons ((ih (Text.trim id :: seen)).congr fun other _ ↦ ?_) hseen
        rw [List.mem_cons, not_or, and_comm]

/-- The identifiers of a lookup are all that are asked for, each once in the order of first
occurrence. -/
theorem listsFirst_normalizeIds (ids : List String) :
    ListsFirst (nonblankIds ids) (fun _ ↦ True) (normalizeIds ids) :=
  (listsFirst_distinctIds [] ids).congr fun _ _ ↦ by simp

end ResourceLookup
