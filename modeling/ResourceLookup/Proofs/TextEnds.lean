import ResourceLookup.Text.Blank
import ResourceLookup.Text.Search
import Mathlib.Data.List.DropRight

/-!
# The ends of texts

A text loses white space at both ends when it is trimmed, and copies of one character at its end
when it is stripped of that character. In both cases what is left is the library's
`List.rdropWhile` (`toList_trim`, `toList_trimEnd`). A text with white space at neither end stays as
it is (`trim_eq_self`), stripping leaves out a number of copies of one character
(`exists_eq_rdropWhile_append_replicate`), and nothing is dropped in front of a character that fails
the test (`rdropWhile_append_cons`).
-/

set_option autoImplicit false
set_option relaxedAutoImplicit false

namespace ResourceLookup.Text

theorem toList_trim (text : String) :
    (trim text).toList = (text.toList.dropWhile isWhite).rdropWhile isWhite :=
  String.toList_ofList

theorem toList_trimEnd (mark : Char) (text : String) :
    (trimEnd mark text).toList = text.toList.rdropWhile (· == mark) :=
  String.toList_ofList

/-- A text with white space at neither end is trimmed. -/
theorem trim_eq_self {text : String} (hhead : ∀ c ∈ text.toList.head?, isWhite c = false)
    (hlast : ∀ c ∈ text.toList.getLast?, isWhite c = false) : trim text = text := by
  have hstart : text.toList.dropWhile isWhite = text.toList := by
    refine List.dropWhile_eq_self_iff.mpr fun hlength ↦ ?_
    have hfirst : text.toList.head? = some text.toList[0] := by
      rw [List.head?_eq_getElem?, List.getElem?_eq_getElem hlength]
    exact ne_true_of_eq_false (hhead _ hfirst)
  have hend : text.toList.rdropWhile isWhite = text.toList := by
    refine List.rdropWhile_eq_self_iff.mpr fun hne ↦ ?_
    exact ne_true_of_eq_false (hlast _ (List.getLast?_eq_some_getLast hne))
  rw [← String.toList_inj, toList_trim, hstart, hend]

/-- What is dropped where a text is stripped of a character consists of copies of it. -/
theorem exists_eq_rdropWhile_append_replicate (mark : Char) (text : List Char) :
    ∃ count, text = text.rdropWhile (· == mark) ++ List.replicate count mark := by
  have hdropped : ∀ c ∈ text.rtakeWhile (· == mark), c = mark := by
    intro c hc
    have hmark := List.mem_rtakeWhile_imp hc
    exact eq_of_beq hmark
  refine ⟨(text.rtakeWhile (· == mark)).length, ?_⟩
  rw [← List.eq_replicate_of_mem hdropped, List.rdropWhile_append_rtakeWhile]

/-- Dropping at the end stops at a character that fails the test. -/
theorem rdropWhile_append_cons (test : Char → Bool) {mark : Char} (hmark : test mark = false)
    (text rest : List Char) :
    (text ++ mark :: rest).rdropWhile test = text ++ mark :: rest.rdropWhile test := by
  rw [List.rdropWhile, List.reverse_append, List.reverse_cons, List.append_assoc,
    List.singleton_append, dropWhile_append_cons test hmark, List.reverse_append,
    List.reverse_cons, List.reverse_reverse, List.append_assoc, List.singleton_append,
    List.rdropWhile]

end ResourceLookup.Text
