/-!
# Searching text

The part of a text behind its start (`stripStart?`), occurrence of one text in another (`occursIn`),
and splitting at the first separator (`splitAt?`) or at all of them (`splitWhere`). All work on
lists of characters or octets, so that a proof can follow the data.

Main statements: `occursIn_iff_isInfix`, a text occurs in another exactly if the other is something
before it, the text, and something behind it; and `splitAt?_eq_some_iff`, the first part of a split
is what stands in front of the first separator. A test that reads a text from its start does not get
past a mark on which it fails (`takeWhile_append_cons`, `dropWhile_append_cons`), and what stands on
the two sides of a mark is split apart from each other (`splitWhere_append_cons`). A text occurs
across the place where two others meet only with a part at that place (`infix_append_left_iff`,
`infix_append_right_iff`, `infix_append_cons_iff`).
-/

set_option autoImplicit false
set_option relaxedAutoImplicit false

namespace ResourceLookup.Text

variable {α : Type} [BEq α]

/-- The rest of `text` behind `start`, if it starts so. -/
def stripStart? : List α → List α → Option (List α)
  | [], text => some text
  | _ :: _, [] => none
  | first :: start, head :: text => if first == head then stripStart? start text else none

/-- Whether `text` starts with `start`. -/
def startsWith (start text : List α) : Bool :=
  (stripStart? start text).isSome

/-- Whether `needle` occurs in `text` as a contiguous part. -/
def occursIn (needle : List α) : List α → Bool
  | [] => needle.isEmpty
  | head :: text => startsWith needle (head :: text) || occursIn needle text

/-- Whether `needle` occurs in `text` as a contiguous part, on strings. -/
def contains (text needle : String) : Bool :=
  occursIn needle.toList text.toList

/-- The parts before and behind the first element equal to `mark`. -/
def splitAt? (mark : α) : List α → Option (List α × List α)
  | [] => none
  | head :: text =>
    if head == mark then some ([], text)
    else (splitAt? mark text).map fun (before, behind) ↦ (head :: before, behind)

/-- The parts between the elements that satisfy the test; one part more than there are marks. -/
def splitWhere (isMark : α → Bool) : List α → List (List α)
  | [] => [[]]
  | head :: text =>
    if isMark head then [] :: splitWhere isMark text
    else match splitWhere isMark text with
      | [] => [[head]]
      | part :: parts => (head :: part) :: parts

/-! ### What is found -/

variable [LawfulBEq α]

theorem stripStart?_eq_some_iff (start text rest : List α) :
    stripStart? start text = some rest ↔ text = start ++ rest := by
  induction start generalizing text with
  | nil => simp [stripStart?, eq_comm]
  | cons first start ih =>
    cases text with
    | nil => simp [stripStart?]
    | cons head text =>
      by_cases h : first = head
      · simp [stripStart?, h, ih]
      · simp [stripStart?, h, Ne.symm h]

theorem startsWith_iff (start text : List α) :
    startsWith start text = true ↔ start <+: text := by
  rw [startsWith, Option.isSome_iff_exists]
  constructor
  · rintro ⟨rest, h⟩
    exact ⟨rest, ((stripStart?_eq_some_iff start text rest).mp h).symm⟩
  · rintro ⟨rest, h⟩
    exact ⟨rest, (stripStart?_eq_some_iff start text rest).mpr h.symm⟩

theorem occursIn_iff_isInfix (needle text : List α) :
    occursIn needle text = true ↔ needle <:+: text := by
  induction text with
  | nil => simp [occursIn]
  | cons head text ih => rw [occursIn, Bool.or_eq_true, startsWith_iff, ih, List.infix_cons_iff]

theorem occursIn_eq_false_iff {needle text : List α} :
    occursIn needle text = false ↔ ¬ needle <:+: text := by
  rw [← occursIn_iff_isInfix, Bool.not_eq_true]

theorem splitAt?_eq_some_iff (mark : α) (text before behind : List α) :
    splitAt? mark text = some (before, behind) ↔
      text = before ++ mark :: behind ∧ mark ∉ before := by
  induction text generalizing before with
  | nil => simp [splitAt?]
  | cons head text ih =>
    by_cases h : head = mark
    · subst h
      cases before with
      | nil => simp [splitAt?]
      | cons first before =>
        simp only [splitAt?, beq_self_eq_true, if_true, Option.some.injEq, Prod.mk.injEq,
          List.cons_append, List.cons.injEq, List.mem_cons, not_or]
        constructor
        · rintro ⟨h, _⟩
          cases h
        · rintro ⟨⟨h, _⟩, hne, _⟩
          exact absurd h hne
    · cases before with
      | nil => simp [splitAt?, h]
      | cons first before =>
        simp only [splitAt?, beq_iff_eq, h, if_false, Option.map_eq_some_iff, List.cons_append,
          List.cons.injEq, List.mem_cons, not_or]
        constructor
        · rintro ⟨⟨before', behind'⟩, hsplit, hsame⟩
          simp only [Prod.mk.injEq, List.cons.injEq] at hsame
          obtain ⟨⟨rfl, rfl⟩, rfl⟩ := hsame
          obtain ⟨htext, habsent⟩ := (ih before').mp hsplit
          exact ⟨⟨rfl, htext⟩, Ne.symm h, habsent⟩
        · rintro ⟨⟨rfl, htext⟩, _, habsent⟩
          exact ⟨(before, behind), (ih before).mpr ⟨htext, habsent⟩, rfl⟩

theorem splitAt?_eq_none_iff (mark : α) (text : List α) :
    splitAt? mark text = none ↔ mark ∉ text := by
  induction text with
  | nil => simp [splitAt?]
  | cons head text ih =>
    by_cases h : head = mark
    · simp [splitAt?, h]
    · simp [splitAt?, h, Ne.symm h, ih]

/-! ### Where texts meet -/

section Meeting

variable {β : Type} {needle fixed : List β}

/-- Behind a fixed text, nothing is found that is not in the text behind it. Assumes: no start of
the needle ends the fixed text. -/
theorem infix_append_left_iff (habsent : ¬ needle <:+: fixed)
    (hclear : ∀ i < needle.length, ¬ needle.take (i + 1) <:+ fixed) (text : List β) :
    needle <:+: fixed ++ text ↔ needle <:+: text := by
  rw [List.infix_append_iff]
  constructor
  · rintro (hfixed | htext | ⟨start, rest, rfl, hstart, hrest⟩)
    · exact absurd hfixed habsent
    · exact htext
    · cases start with
      | nil => exact hrest.isInfix
      | cons head start =>
        have hlength : start.length < (head :: start ++ rest).length := by
          rw [List.length_append, List.length_cons]
          omega
        have hcount : (head :: start).length = start.length + 1 := rfl
        refine absurd ?_ (hclear start.length hlength)
        rw [List.take_left' hcount]
        exact hstart
  · exact fun htext ↦ .inr (.inl htext)

/-- Before a fixed text, nothing is found that is not in the text before it. Assumes: no end of the
needle starts the fixed text. -/
theorem infix_append_right_iff (habsent : ¬ needle <:+: fixed)
    (hclear : ∀ i < needle.length, ¬ needle.drop i <+: fixed) (text : List β) :
    needle <:+: text ++ fixed ↔ needle <:+: text := by
  rw [List.infix_append_iff]
  constructor
  · rintro (htext | hfixed | ⟨start, rest, rfl, hstart, hrest⟩)
    · exact htext
    · exact absurd hfixed habsent
    · cases rest with
      | nil =>
        rw [List.append_nil]
        exact hstart.isInfix
      | cons head rest =>
        have hlength : start.length < (start ++ head :: rest).length := by
          rw [List.length_append, List.length_cons]
          omega
        refine absurd ?_ (hclear start.length hlength)
        rw [List.drop_left' rfl]
        exact hrest
  · exact .inl

/-- What does not contain a mark is found on one of its two sides. -/
theorem infix_append_cons_iff {mark : β} (hmark : mark ∉ needle) (text rest : List β) :
    needle <:+: text ++ mark :: rest ↔ needle <:+: text ∨ needle <:+: rest := by
  have hempty : ∀ {part : List β}, mark ∉ part → part <+: mark :: rest → part = [] := by
    intro part hpart hstarts
    cases part with
    | nil => rfl
    | cons head part =>
      obtain ⟨rfl, -⟩ := List.cons_prefix_cons.mp hstarts
      exact absurd List.mem_cons_self hpart
  constructor
  · intro hwhole
    rcases List.infix_append_iff.mp hwhole with htext | hright | ⟨start, part, rfl, hstart, hpart⟩
    · exact .inl htext
    · rcases List.infix_cons_iff.mp hright with hstarts | hrest
      · rw [hempty hmark hstarts]
        exact .inl List.nil_infix
      · exact .inr hrest
    · rw [hempty (fun hmem ↦ hmark (List.mem_append_right start hmem)) hpart, List.append_nil]
      exact .inl hstart.isInfix
  · rintro (htext | hrest)
    · exact htext.trans List.infix_append_left
    · exact (hrest.trans (List.suffix_cons mark rest).isInfix).trans List.infix_append_right

end Meeting

/-! ### Marks that stop a test -/

section Stopping

variable {β : Type} (test : β → Bool)

theorem takeWhile_append_cons {mark : β} (hmark : test mark = false) (text rest : List β) :
    (text ++ mark :: rest).takeWhile test = text.takeWhile test := by
  rw [List.takeWhile_append, List.takeWhile_cons_of_neg (ne_true_of_eq_false hmark),
    List.append_nil]
  split
  · next hlength => exact ((List.takeWhile_prefix test).eq_of_length hlength).symm
  · rfl

theorem dropWhile_append_cons {mark : β} (hmark : test mark = false) (text rest : List β) :
    (text ++ mark :: rest).dropWhile test = text.dropWhile test ++ mark :: rest := by
  rw [List.dropWhile_append, List.dropWhile_cons_of_neg (ne_true_of_eq_false hmark)]
  split
  · next hempty => rw [List.isEmpty_iff.mp hempty, List.nil_append]
  · rfl

end Stopping

/-! ### Splitting at all marks -/

section Splitting

variable {β : Type} {isMark : β → Bool} {text : List β}

theorem splitWhere_eq_splitOnP (isMark : β → Bool) (text : List β) :
    splitWhere isMark text = text.splitOnP isMark := by
  induction text with
  | nil => rfl
  | cons head text ih =>
    rw [splitWhere, ih, List.splitOnP_cons_eq_if_modifyHead]
    split
    · rfl
    · cases hparts : text.splitOnP isMark with
      | nil => exact absurd hparts (List.splitOnP_ne_nil isMark text)
      | cons part parts => rfl

theorem splitWhere_ne_nil (isMark : β → Bool) (text : List β) : splitWhere isMark text ≠ [] := by
  rw [splitWhere_eq_splitOnP]
  exact List.splitOnP_ne_nil isMark text

/-- The parts on the two sides of a mark are found apart from each other. -/
theorem splitWhere_append_cons {mark : β} (hmark : isMark mark = true) (text rest : List β) :
    splitWhere isMark (text ++ mark :: rest) =
      splitWhere isMark text ++ splitWhere isMark rest := by
  simp only [splitWhere_eq_splitOnP]
  exact List.splitOnP_append_cons text rest hmark

/-- A text without marks is a single part. -/
theorem splitWhere_eq_singleton (htext : ∀ element ∈ text, isMark element = false) :
    splitWhere isMark text = [text] := by
  rw [splitWhere_eq_splitOnP]
  exact List.splitOnP_eq_singleton htext

end Splitting

end ResourceLookup.Text
