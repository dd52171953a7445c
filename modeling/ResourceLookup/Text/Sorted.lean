/-!
# Sorted texts

A list of texts as a set: in ascending order of their code points, each once (`sortedSet`). Two
lists with the same members give the same sorted list, which is what keys and listings rely on.

Main statements: the sorted list has the members of the list (`mem_sortedSet`), and it ascends
(`pairwise_sortedSet`).
-/

set_option autoImplicit false
set_option relaxedAutoImplicit false

namespace ResourceLookup.Text

/-- A text put into an ascending list without repetitions. -/
def insertSorted (text : String) : List String → List String
  | [] => [text]
  | first :: rest =>
    if text < first then text :: first :: rest
    else if text = first then first :: rest
    else first :: insertSorted text rest

/-- The texts in ascending order of their code points, each once. -/
def sortedSet (texts : List String) : List String :=
  texts.foldl (fun sorted text ↦ insertSorted text sorted) []

/-! ### Members and order -/

theorem mem_insertSorted {text other : String} {sorted : List String} :
    other ∈ insertSorted text sorted ↔ other = text ∨ other ∈ sorted := by
  induction sorted with
  | nil => simp [insertSorted]
  | cons first rest ih =>
    unfold insertSorted
    split
    · exact List.mem_cons
    · split
      · next hsame =>
        rw [hsame, List.mem_cons]
        exact ⟨.inr, fun hmem ↦ hmem.elim .inl id⟩
      · rw [List.mem_cons, ih, List.mem_cons]
        exact or_left_comm

theorem pairwise_insertSorted (text : String) {sorted : List String}
    (hsorted : sorted.Pairwise (· < ·)) : (insertSorted text sorted).Pairwise (· < ·) := by
  induction sorted with
  | nil => exact List.pairwise_singleton _ _
  | cons first rest ih =>
    have hrest := List.pairwise_cons.mp hsorted
    unfold insertSorted
    split
    · next hbefore =>
      refine .cons (fun other hother ↦ ?_) hsorted
      rcases List.mem_cons.mp hother with rfl | hother
      · exact hbefore
      · exact String.lt_trans hbefore (hrest.1 other hother)
    · next hnotBefore =>
      split
      · exact hsorted
      · next hdifferent =>
        refine .cons (fun other hother ↦ ?_) (ih hrest.2)
        rcases mem_insertSorted.mp hother with rfl | hother
        · exact Std.lt_of_le_of_ne (String.not_lt.mp hnotBefore) (Ne.symm hdifferent)
        · exact hrest.1 other hother

/-- Putting texts in one by one keeps the order and adds them as members. -/
theorem foldl_insertSorted (texts : List String) {sorted : List String}
    (hsorted : sorted.Pairwise (· < ·)) :
    (texts.foldl (fun sorted text ↦ insertSorted text sorted) sorted).Pairwise (· < ·) ∧
      ∀ text, text ∈ texts.foldl (fun sorted text ↦ insertSorted text sorted) sorted ↔
        text ∈ texts ∨ text ∈ sorted := by
  induction texts generalizing sorted with
  | nil => exact ⟨hsorted, fun text ↦ by simp⟩
  | cons first rest ih =>
    obtain ⟨hascends, hmembers⟩ := ih (pairwise_insertSorted first hsorted)
    refine ⟨hascends, fun text ↦ (hmembers text).trans ?_⟩
    rw [mem_insertSorted, List.mem_cons, or_assoc, or_left_comm]

/-- The sorted list ascends. -/
theorem pairwise_sortedSet (texts : List String) : (sortedSet texts).Pairwise (· < ·) :=
  (foldl_insertSorted texts .nil).1

/-- The sorted list has the members of the list. -/
@[simp] theorem mem_sortedSet {text : String} {texts : List String} :
    text ∈ sortedSet texts ↔ text ∈ texts := by
  rw [sortedSet, (foldl_insertSorted texts .nil).2 text]
  simp

end ResourceLookup.Text
