import ResourceLookup.Json.Printer
import ResourceLookup.Json.Reader
import ResourceLookup.Proofs.DecimalDigits

/-!
# JSON values read back

The compact text of a value reads back as the value (`Json.parse_compact`), if its numbers are
integers of 64 bits and it is not nested too deep (`Json.Plain`). Floating point numbers are left
out: their texts are rounded.

Reading follows writing. A string is read character by character, each of which is read from its
escaped form (`Json.readChars_escapeChar`). A number is read as the digits that were written
(`Json.readNumber_digits`), where the text behind it must not go on with the number
(`Json.EndsNumber`). Values are read with any such text behind them, by induction on the way in
which they are nested (`Json.readValue_write`), and a number of steps that is at least the length of
the text is enough.
-/

set_option autoImplicit false
set_option relaxedAutoImplicit false

namespace ResourceLookup.Json

open Text

/-! ### Strings -/

section Strings

variable {read rest : List Char} {c : Char}

/-- Two hexadecimal digits of a control character. -/
theorem hexUnit?_control {code : Nat} (hcode : code < 32) :
    hexUnit? '0' '0' (hexDigit (code / 16)) (hexDigit (code % 16)) = some code := by
  have hall : ∀ n < 32, hexUnit? '0' '0' (hexDigit (n / 16)) (hexDigit (n % 16)) = some n := by
    decide
  exact hall code hcode

/-- An escape of four hexadecimal digits that stands for a character. -/
theorem readChars_unit {a b d e : Char} (hc : c.toNat < 32)
    (hunit : hexUnit? a b d e = some c.toNat) :
    readChars read ('\\' :: 'u' :: a :: b :: d :: e :: rest) = readChars (c :: read) rest := by
  have hlow : isLowSurrogate c.toNat = false := by
    simp only [isLowSurrogate, Bool.and_eq_false_iff, decide_eq_false_iff_not]
    omega
  have hhigh : isHighSurrogate c.toNat = false := by
    simp only [isHighSurrogate, Bool.and_eq_false_iff, decide_eq_false_iff_not]
    omega
  have hchar : Char.ofNat c.toNat = c := Char.ofNat_toNat c
  rw [readChars]
  simp only [hunit, hlow, hhigh, hchar, Bool.false_eq_true, if_false]

/-- An escape of one letter. -/
theorem readChars_simple {letter : Char} (hletter : letter ≠ 'u')
    (hsimple : simpleEscape? letter = some c) :
    readChars read ('\\' :: letter :: rest) = readChars (c :: read) rest := by
  rw [readChars]
  · simp only [hsimple]
  all_goals simp [hletter]

/-- A character that is not escaped. -/
theorem readChars_plain (hquote : c ≠ '"') (hbackslash : c ≠ '\\') (hc : ¬ c.toNat < 32) :
    readChars read (c :: rest) = readChars (c :: read) rest := by
  rw [readChars]
  · rw [if_neg (by simpa using hbackslash), if_neg hc]
  all_goals simp [hquote, hbackslash]

/-- A character with that code. -/
theorem eq_ofNat_of_toNat {code : Nat} (hc : (c.toNat == code) = true) : Char.ofNat code = c := by
  rw [← beq_iff_eq.mp hc, Char.ofNat_toNat]

/-- The written form of a character reads back. -/
theorem readChars_escapeChar (c : Char) (read rest : List Char) :
    readChars read (escapeChar c ++ rest) = readChars (c :: read) rest := by
  unfold escapeChar
  split
  · next hquote =>
    obtain rfl := beq_iff_eq.mp hquote
    exact readChars_simple (by decide) (by decide)
  · next hquote =>
    split
    · next hbackslash =>
      obtain rfl := beq_iff_eq.mp hbackslash
      exact readChars_simple (by decide) (by decide)
    · next hbackslash =>
      -- What is left is an escape of one letter, one of four digits, or the character itself.
      repeat' split
      all_goals next hcode => first
        | exact readChars_simple (by decide) (congrArg some (eq_ofNat_of_toNat hcode))
        | exact readChars_unit hcode (hexUnit?_control hcode)
        | exact readChars_plain (fun h ↦ hquote (beq_iff_eq.mpr h))
            (fun h ↦ hbackslash (beq_iff_eq.mpr h)) hcode

theorem readChars_flatMap_escapeChar (text read rest : List Char) :
    readChars read (text.flatMap escapeChar ++ '"' :: rest) = .ok (read.reverse ++ text, rest) := by
  induction text generalizing read with
  | nil =>
    rw [List.flatMap_nil, List.nil_append, List.append_nil, readChars]
  | cons c text ih =>
    rw [List.flatMap_cons, List.append_assoc, readChars_escapeChar, ih, List.reverse_cons,
      List.append_assoc]
    rfl

/-- A string reads back, behind its opening quote. -/
theorem readString_writeString (text : String) (rest : List Char) :
    readString (text.toList.flatMap escapeChar ++ '"' :: rest) = .ok (text, rest) := by
  rw [readString, readChars_flatMap_escapeChar]
  simp only [List.reverse_nil, List.nil_append, String.ofList_toList]

end Strings

/-! ### Numbers -/

/-- A text that does not go on with a number in front of it. -/
def EndsNumber (rest : List Char) : Prop :=
  ∀ c ∈ rest.head?, isAsciiDigit c = false ∧ c ≠ '.' ∧ c ≠ 'e' ∧ c ≠ 'E'

section Numbers

variable {rest : List Char}

/-- Digits read from a number on lead to no smaller one. -/
theorem le_foldl_digits (digits : List Char) (start : Nat) :
    start ≤ digits.foldl (fun total c ↦ total * 10 + digitValue c) start := by
  induction digits generalizing start with
  | nil => exact Nat.le_refl start
  | cons c digits ih => exact Nat.le_trans (by omega) (ih (start * 10 + digitValue c))

/-- No digit is left out where the number fits into 64 bits. -/
theorem wholePart_eq (digits : List Char) (start : Nat)
    (hfits : digits.foldl (fun total c ↦ total * 10 + digitValue c) start < Nat.pow 2 64) :
    wholePart start digits =
      ⟨digits.foldl (fun total c ↦ total * 10 + digitValue c) start, 0⟩ := by
  induction digits generalizing start with
  | nil => rfl
  | cons c digits ih =>
    have hnext : withDigit start c < Nat.pow 2 64 :=
      Nat.lt_of_le_of_lt (le_foldl_digits digits (withDigit start c)) hfits
    rw [wholePart, if_pos hnext]
    exact ih (withDigit start c) hfits

theorem wholePart_toDigits {n : Nat} (hn : n < Nat.pow 2 64) :
    wholePart 0 (Nat.toDigits 10 n) = ⟨n, 0⟩ := by
  have hvalue : (Nat.toDigits 10 n).foldl (fun total c ↦ total * 10 + digitValue c) 0 = n :=
    numberOf_toDigits n
  have hfits : (Nat.toDigits 10 n).foldl (fun total c ↦ total * 10 + digitValue c) 0 <
      Nat.pow 2 64 := hvalue.symm ▸ hn
  rw [wholePart_eq _ _ hfits, hvalue]

theorem readFraction_of_endsNumber (hrest : EndsNumber rest) :
    readFraction rest = .ok (none, rest) := by
  unfold readFraction
  split
  · exact absurd rfl (hrest '.' rfl).2.1
  · rfl

theorem readExponent_of_endsNumber (hrest : EndsNumber rest) :
    readExponent rest = .ok (none, rest) := by
  cases rest with
  | nil => rfl
  | cons c rest =>
    obtain ⟨-, -, hlower, hupper⟩ := hrest c rfl
    unfold readExponent
    exact if_neg (by simp [hlower, hupper])

/-- The digits of a number are all of it. -/
theorem readWhole_toDigits (n : Nat) (hrest : EndsNumber rest) :
    readWhole (Nat.toDigits 10 n ++ rest) = .ok (Nat.toDigits 10 n, rest) := by
  have hends : EndsDigits rest := fun c hc ↦ (hrest c hc).1
  have hspan : spanDigits (Nat.toDigits 10 n ++ rest) = (Nat.toDigits 10 n, rest) := by
    rw [spanDigits, takeWhile_digits_append (all_isAsciiDigit_toDigits n) hends,
      dropWhile_digits_append (all_isAsciiDigit_toDigits n) hends]
  obtain ⟨first, more, hdigits⟩ := List.exists_cons_of_ne_nil (@Nat.toDigits_ne_nil n 10)
  by_cases hzero : first = '0'
  · obtain rfl := eq_zero_of_toDigits n (hzero ▸ hdigits)
    rw [Nat.toDigits_zero]
    cases rest with
    | nil => rfl
    | cons c rest =>
      have hc : isAsciiDigit c = false := hends c rfl
      show (if isAsciiDigit c = true then _ else Except.ok (['0'], c :: rest)) = _
      rw [hc, if_neg Bool.false_ne_true]
  · have hfirst : isAsciiDigit first = true :=
      all_isAsciiDigit_toDigits n first (hdigits ▸ List.mem_cons_self)
    rw [hdigits, List.cons_append] at hspan ⊢
    rw [readWhole]
    · rw [if_pos hfirst, hspan]
    · simpa using hzero

/-- The number that the digits of a natural number give behind a sign. -/
theorem readNumber_toDigits {negative : Bool} {n : Nat} {value : JsonNumber}
    (hvalue : numberOf? negative (Nat.toDigits 10 n) none none = some value)
    (hrest : EndsNumber rest) :
    readNumber negative (Nat.toDigits 10 n ++ rest) = .ok (.number value, rest) := by
  simp only [readNumber, readWhole_toDigits n hrest, readFraction_of_endsNumber hrest,
    readExponent_of_endsNumber hrest, hvalue]

/-- The digits of a natural number of 64 bits. -/
theorem numberOf?_natural {n : Nat} (hn : n < Nat.pow 2 64) :
    numberOf? false (Nat.toDigits 10 n) none none = some (.integer n) := by
  simp only [numberOf?, wholePart_toDigits hn, beq_self_eq_true, if_true, Bool.not_false]

/-- The digits of a negative integer of 64 bits. -/
theorem numberOf?_negative {n : Nat} (hpositive : 0 < n) (hn : n ≤ Nat.pow 2 63) :
    numberOf? true (Nat.toDigits 10 n) none none = some (.integer (-n)) := by
  have hfits : n < Nat.pow 2 64 := Nat.lt_of_le_of_lt hn (by decide)
  have hinteger : ¬ (n == 0 || decide (Nat.pow 2 63 < n)) = true := by
    simp only [Bool.or_eq_true, beq_iff_eq, decide_eq_true_eq]
    omega
  simp only [numberOf?, wholePart_toDigits hfits, beq_self_eq_true, if_true, Bool.not_true,
    Bool.false_eq_true, if_false, if_neg hinteger]

end Numbers

/-! ### Steps of the reader -/

section Steps

variable {c : Char} {text rest : List Char} {steps depth : Nat} {value : Json} {name : String}

theorem isSpace_of_isAsciiDigit (hc : isAsciiDigit c = true) : isSpace c = false := by
  simp only [isAsciiDigit, Bool.and_eq_true, decide_eq_true_eq] at hc
  simp only [isSpace, Bool.or_eq_false_iff, beq_eq_false_iff_ne]
  refine ⟨⟨⟨?_, ?_⟩, ?_⟩, ?_⟩ <;> rintro rfl <;> exact absurd hc (by decide)

theorem skipSpace_cons (hc : isSpace c = false) : skipSpace (c :: rest) = c :: rest :=
  List.dropWhile_cons_of_neg (ne_true_of_eq_false hc)

theorem readValue_digit (hc : isAsciiDigit c = true) :
    readValue (steps + 1) depth (c :: rest) = readNumber false (c :: rest) := by
  rw [readValue, skipSpace_cons (isSpace_of_isAsciiDigit hc)]
  split
  all_goals next heq => first
    | (obtain ⟨rfl, -⟩ := List.cons.inj heq; exact absurd hc (by decide))
    | (obtain ⟨rfl, rfl⟩ := List.cons.inj heq; exact if_pos hc)
    | cases heq

theorem readValue_minus :
    readValue (steps + 1) depth ('-' :: rest) = readNumber true rest := by
  rw [readValue, skipSpace_cons (by decide)]
  rfl

theorem readValue_writeString (read : String) :
    readValue (steps + 1) depth (writeString read ++ rest) = .ok (.string read, rest) := by
  rw [writeString, List.cons_append, List.append_assoc, List.singleton_append, readValue,
    skipSpace_cons (by decide)]
  simp only [readString_writeString]

theorem readValue_list {elements : List Json}
    (helements : readElements steps depth true [] text = .ok (elements, rest)) :
    readValue (steps + 1) (depth + 1) ('[' :: text) = .ok (.array elements, rest) := by
  rw [readValue, skipSpace_cons (by decide)]
  simp only [helements]

theorem readValue_object {members : List (String × Json)}
    (hmembers : readMembers steps depth true [] text = .ok (members, rest)) :
    readValue (steps + 1) (depth + 1) (Char.ofNat 0x7B :: text) = .ok (.object members, rest) := by
  have hdigit : isAsciiDigit (Char.ofNat 0x7B) = false := by decide
  have hbrace : ((Char.ofNat 0x7B).toNat == 0x7B) = true := by decide
  rw [readValue, skipSpace_cons (by decide)]
  split
  case h_8 _ c rest _ _ _ _ _ _ heq =>
    obtain ⟨rfl, rfl⟩ := List.cons.inj heq
    simp only [hdigit, hbrace, Bool.false_eq_true, if_false, if_true, hmembers]
  case h_1 heq => cases heq
  all_goals next heq => exact absurd (List.cons.inj heq).1 (by decide)

theorem readElements_close (first : Bool) (read : List Json) :
    readElements (steps + 1) depth first read (']' :: rest) = .ok (read.reverse, rest) := by
  rw [readElements, skipSpace_cons (by decide)]
  rfl

theorem readElements_first {read : List Json} (hspace : isSpace c = false) (hc : c ≠ ']')
    (hvalue : readValue steps depth (c :: text) = .ok (value, rest)) :
    readElements (steps + 1) depth true read (c :: text) =
      readElements steps depth false (value :: read) rest := by
  rw [readElements, skipSpace_cons hspace]
  split
  · next heq => cases heq
  · next heq => exact absurd (List.cons.inj heq).1 hc
  · next heq =>
    obtain ⟨rfl, rfl⟩ := List.cons.inj heq
    simp only [if_true, hvalue]

theorem readElements_next {read : List Json} (hspace : isSpace c = false) (hc : c ≠ ']')
    (hvalue : readValue steps depth (c :: text) = .ok (value, rest)) :
    readElements (steps + 1) depth false read (',' :: c :: text) =
      readElements steps depth false (value :: read) rest := by
  rw [readElements, skipSpace_cons (by decide)]
  split
  · next heq => cases heq
  · next heq => exact absurd (List.cons.inj heq).1 (by decide)
  · next heq =>
    obtain ⟨rfl, rfl⟩ := List.cons.inj heq
    simp only [Bool.false_eq_true, if_false, beq_self_eq_true, if_true, skipSpace_cons hspace]
    split
    · next hstop =>
      split at hstop
      · next hclosed => exact absurd (List.cons.inj hclosed).1 hc
      · cases hstop
    · next hstart =>
      split at hstart
      · next hclosed => exact absurd (List.cons.inj hclosed).1 hc
      · obtain rfl := Except.ok.inj hstart
        simp only [hvalue]

theorem readMembers_close (first : Bool) (read : List (String × Json)) :
    readMembers (steps + 1) depth first read (Char.ofNat 0x7D :: rest) =
      .ok (read.reverse, rest) := by
  rw [readMembers, skipSpace_cons (by decide)]
  rfl

theorem readColon_cons (rest : List Char) : readColon (':' :: rest) = .ok rest := by
  rw [readColon, skipSpace_cons (by decide)]
  rfl

theorem readMembers_first {read : List (String × Json)}
    (hvalue : readValue steps depth text = .ok (value, rest)) :
    readMembers (steps + 1) depth true read (writeString name ++ ':' :: text) =
      readMembers steps depth false ((name, value) :: read) rest := by
  rw [writeString, List.cons_append, List.append_assoc, List.singleton_append, readMembers,
    skipSpace_cons (by decide)]
  have hclose : ('"'.toNat == 0x7D) = false := by decide
  simp only [hclose, Bool.false_eq_true, if_false, if_true, bne_self_eq_false,
    readString_writeString, readColon_cons, hvalue]

theorem readMembers_next {read : List (String × Json)}
    (hvalue : readValue steps depth text = .ok (value, rest)) :
    readMembers (steps + 1) depth false read (',' :: (writeString name ++ ':' :: text)) =
      readMembers steps depth false ((name, value) :: read) rest := by
  have hclose : (','.toNat == 0x7D) = false := by decide
  rw [writeString, List.cons_append, List.append_assoc, List.singleton_append, readMembers,
    skipSpace_cons (by decide)]
  simp only [hclose, Bool.false_eq_true, if_false, if_true, beq_self_eq_true, bne_self_eq_false,
    skipSpace_cons (by decide : isSpace '"' = false), readString_writeString, readColon_cons,
    hvalue]

end Steps

/-! ### Values -/

/-- A value whose numbers are integers of 64 bits, with or without a sign, and which is nested at
most so deep. -/
inductive Plain : Nat → Json → Prop
  | null (depth : Nat) : Plain depth .null
  | bool (depth : Nat) (value : Bool) : Plain depth (.bool value)
  | integer (depth : Nat) (value : Int) (hlow : -Nat.pow 2 63 ≤ value)
      (hhigh : value < Nat.pow 2 64) : Plain depth (.number (.integer value))
  | string (depth : Nat) (value : String) : Plain depth (.string value)
  | array {depth : Nat} {elements : List Json}
      (helements : ∀ element ∈ elements, Plain depth element) :
      Plain (depth + 1) (.array elements)
  | object {depth : Nat} {members : List (String × Json)}
      (hmembers : ∀ member ∈ members, Plain depth member.2) :
      Plain (depth + 1) (.object members)

section Values

variable {depth : Nat} {value : Json}

theorem writeInteger_of_nonneg {value : Int} (hvalue : 0 ≤ value) :
    writeInteger value = Nat.toDigits 10 value.natAbs :=
  if_neg (Int.not_lt.mpr hvalue)

theorem writeInteger_of_neg {value : Int} (hvalue : value < 0) :
    writeInteger value = '-' :: Nat.toDigits 10 value.natAbs :=
  if_pos hvalue

/-- What the text of a value begins with. -/
theorem Plain.exists_head (hplain : Plain depth value) :
    ∃ c text, write value = c :: text ∧ isSpace c = false ∧ c ≠ ']' := by
  cases hplain with
  | null => exact ⟨'n', _, rfl, by decide, by decide⟩
  | bool _ value => cases value <;> exact ⟨_, _, rfl, by decide, by decide⟩
  | integer _ value hlow hhigh =>
    by_cases hnegative : value < 0
    · exact ⟨'-', _, writeInteger_of_neg hnegative, by decide, by decide⟩
    · obtain ⟨c, text, hdigits⟩ :=
        List.exists_cons_of_ne_nil (@Nat.toDigits_ne_nil value.natAbs 10)
      have hc : isAsciiDigit c = true :=
        all_isAsciiDigit_toDigits value.natAbs c (hdigits ▸ List.mem_cons_self)
      refine ⟨c, text, (writeInteger_of_nonneg (Int.not_lt.mp hnegative)).trans hdigits,
        isSpace_of_isAsciiDigit hc, ?_⟩
      rintro rfl
      exact absurd hc (by decide)
  | string _ value => exact ⟨'"', _, rfl, by decide, by decide⟩
  | @array _ elements _ => cases elements <;> exact ⟨'[', _, rfl, by decide, by decide⟩
  | @object _ members _ =>
    rcases members with _ | ⟨⟨name, first⟩, rest⟩ <;> exact ⟨Char.ofNat 0x7B, _, rfl, by decide,
      by decide⟩

/-- An integer of 64 bits reads back. -/
theorem readValue_writeInteger {value : Int} (hlow : -Nat.pow 2 63 ≤ value)
    (hhigh : value < Nat.pow 2 64) (steps depth : Nat) {rest : List Char}
    (hrest : EndsNumber rest) :
    readValue (steps + 1) depth (writeInteger value ++ rest) =
      .ok (.number (.integer value), rest) := by
  by_cases hnegative : value < 0
  · have hvalue : (-(value.natAbs : Int)) = value := by omega
    rw [writeInteger_of_neg hnegative, List.cons_append, readValue_minus,
      readNumber_toDigits (numberOf?_negative (by omega) (by omega)) hrest, hvalue]
  · have hvalue : (value.natAbs : Int) = value := by omega
    rw [writeInteger_of_nonneg (Int.not_lt.mp hnegative)]
    obtain ⟨c, text, hdigits⟩ := List.exists_cons_of_ne_nil (@Nat.toDigits_ne_nil value.natAbs 10)
    have hc : isAsciiDigit c = true :=
      all_isAsciiDigit_toDigits value.natAbs c (hdigits ▸ List.mem_cons_self)
    have hread := readNumber_toDigits (numberOf?_natural (by omega : value.natAbs < Nat.pow 2 64))
      hrest
    rw [hdigits, List.cons_append] at hread ⊢
    rw [readValue_digit hc, hread, hvalue]

/-- A value reads back from its text wherever the text behind it does not go on with a number,
within as many steps as the text is long. -/
def ReadsBack (depth : Nat) (value : Json) : Prop :=
  ∀ (steps : Nat) (rest : List Char), (write value).length ≤ steps → EndsNumber rest →
    readValue steps depth (write value ++ rest) = .ok (value, rest)

/-- The elements of a list end numbers, since a bracket or a comma begins what is behind each. -/
theorem endsNumber_writeElements (elements : List Json) (rest : List Char) :
    EndsNumber (writeElements elements ++ rest) := by
  intro c hc
  cases elements with
  | nil =>
    obtain rfl : ']' = c := Option.some.inj hc
    decide
  | cons first elements =>
    obtain rfl : ',' = c := Option.some.inj hc
    decide

/-- So do the members of an object. -/
theorem endsNumber_writeMembers (members : List (String × Json)) (rest : List Char) :
    EndsNumber (writeMembers members ++ rest) := by
  intro c hc
  rcases members with _ | ⟨⟨name, first⟩, members⟩
  · obtain rfl : Char.ofNat 0x7D = c := Option.some.inj hc
    decide
  · obtain rfl : ',' = c := Option.some.inj hc
    decide

/-- The elements behind the first one read back. -/
theorem readElements_writeElements {elements : List Json}
    (hplain : ∀ element ∈ elements, Plain depth element)
    (hback : ∀ element ∈ elements, ReadsBack depth element) (read : List Json) (steps : Nat)
    (rest : List Char) (hsteps : (writeElements elements).length ≤ steps) :
    readElements steps depth false read (writeElements elements ++ rest) =
      .ok (read.reverse ++ elements, rest) := by
  induction elements generalizing read steps with
  | nil =>
    obtain ⟨steps, rfl⟩ := Nat.exists_eq_add_of_le' hsteps
    rw [List.append_nil]
    exact readElements_close false read
  | cons element elements ih =>
    rw [writeElements, List.length_cons, List.length_append] at hsteps
    obtain ⟨steps, rfl⟩ : ∃ fewer, steps = fewer + 1 := ⟨steps - 1, by omega⟩
    obtain ⟨c, text, htext, hspace, hc⟩ := (hplain element List.mem_cons_self).exists_head
    have hread := hback element List.mem_cons_self steps _ (by omega)
      (endsNumber_writeElements elements rest)
    rw [writeElements, List.cons_append, List.append_assoc]
    rw [htext, List.cons_append] at hread ⊢
    rw [readElements_next hspace hc hread,
      ih (fun other hother ↦ hplain other (List.mem_cons_of_mem element hother))
        (fun other hother ↦ hback other (List.mem_cons_of_mem element hother)) _ _ (by omega),
      List.reverse_cons, List.append_assoc, List.singleton_append]

/-- The members behind the first one read back. -/
theorem readMembers_writeMembers {members : List (String × Json)}
    (hback : ∀ member ∈ members, ReadsBack depth member.2) (read : List (String × Json))
    (steps : Nat) (rest : List Char) (hsteps : (writeMembers members).length ≤ steps) :
    readMembers steps depth false read (writeMembers members ++ rest) =
      .ok (read.reverse ++ members, rest) := by
  induction members generalizing read steps with
  | nil =>
    obtain ⟨steps, rfl⟩ := Nat.exists_eq_add_of_le' hsteps
    rw [List.append_nil]
    exact readMembers_close false read
  | cons member members ih =>
    obtain ⟨name, value⟩ := member
    rw [writeMembers, List.length_cons, List.length_append, List.length_cons,
      List.length_append] at hsteps
    obtain ⟨steps, rfl⟩ : ∃ fewer, steps = fewer + 1 := ⟨steps - 1, by omega⟩
    have hread := hback (name, value) List.mem_cons_self steps _
      (show (write value).length ≤ steps by omega) (endsNumber_writeMembers members rest)
    rw [writeMembers, List.cons_append, List.append_assoc, List.cons_append, List.append_assoc,
      readMembers_next hread,
      ih (fun other hother ↦ hback other (List.mem_cons_of_mem _ hother)) _ _ (by omega),
      List.reverse_cons, List.append_assoc, List.singleton_append]

theorem Plain.length_write_pos (hplain : Plain depth value) : 0 < (write value).length := by
  obtain ⟨c, text, htext, -, -⟩ := hplain.exists_head
  rw [htext]
  exact Nat.succ_pos text.length

theorem length_writeElements_pos (elements : List Json) : 0 < (writeElements elements).length := by
  cases elements <;> exact Nat.succ_pos _

/-- A plain list reads back if its elements do. -/
theorem readsBack_array {elements : List Json}
    (hplain : ∀ element ∈ elements, Plain depth element)
    (hback : ∀ element ∈ elements, ReadsBack depth element) :
    ReadsBack (depth + 1) (.array elements) := by
  intro steps rest hsteps _
  cases elements with
  | nil =>
    obtain ⟨steps, rfl⟩ := Nat.exists_eq_add_of_le' hsteps
    exact readValue_list (readElements_close true [])
  | cons element elements =>
    have hlength := (hplain element List.mem_cons_self).length_write_pos
    have hbehind := length_writeElements_pos elements
    rw [write, List.length_cons, List.length_append] at hsteps
    obtain ⟨steps, rfl⟩ : ∃ fewer, steps = fewer + 2 := ⟨steps - 2, by omega⟩
    obtain ⟨c, text, htext, hspace, hc⟩ := (hplain element List.mem_cons_self).exists_head
    have hread := hback element List.mem_cons_self steps _ (by omega)
      (endsNumber_writeElements elements rest)
    rw [write, List.cons_append, List.append_assoc]
    refine readValue_list ?_
    rw [htext, List.cons_append] at hread ⊢
    rw [readElements_first hspace hc hread, readElements_writeElements
      (fun other hother ↦ hplain other (List.mem_cons_of_mem element hother))
      (fun other hother ↦ hback other (List.mem_cons_of_mem element hother)) _ _ _ (by omega)]
    rfl

/-- A plain object reads back if the values of its members do. -/
theorem readsBack_object {members : List (String × Json)}
    (hback : ∀ member ∈ members, ReadsBack depth member.2) :
    ReadsBack (depth + 1) (.object members) := by
  intro steps rest hsteps _
  rcases members with _ | ⟨⟨name, value⟩, members⟩
  · obtain ⟨steps, rfl⟩ := Nat.exists_eq_add_of_le' hsteps
    exact readValue_object (readMembers_close true [])
  · rw [write, List.length_cons, List.length_append, List.length_cons,
      List.length_append] at hsteps
    have hlength : 0 < (writeString name).length := Nat.succ_pos _
    obtain ⟨steps, rfl⟩ : ∃ fewer, steps = fewer + 2 := ⟨steps - 2, by omega⟩
    have hread := hback (name, value) List.mem_cons_self steps _
      (show (write value).length ≤ steps by omega) (endsNumber_writeMembers members rest)
    rw [write, List.cons_append, List.append_assoc, List.cons_append, List.append_assoc]
    refine readValue_object ?_
    rw [readMembers_first hread, readMembers_writeMembers
      (fun other hother ↦ hback other (List.mem_cons_of_mem _ hother)) _ _ _ (by omega)]
    rfl

/-- A plain value reads back. The steps that are left at each level are at least as many as the
characters of what is read there, since every step of a list or an object is made for a bracket or a
comma. -/
theorem readValue_write (hplain : Plain depth value) : ReadsBack depth value := by
  induction hplain with
  | null depth =>
    intro steps rest hsteps _
    obtain ⟨steps, rfl⟩ := Nat.exists_eq_add_of_le' (Nat.le_trans (by decide : 1 ≤ 4) hsteps)
    rfl
  | bool depth value =>
    intro steps rest hsteps _
    have hlength := (Plain.bool depth value).length_write_pos
    obtain ⟨steps, rfl⟩ := Nat.exists_eq_add_of_le' (Nat.le_trans hlength hsteps)
    cases value <;> rfl
  | integer depth value hlow hhigh =>
    intro steps rest hsteps hrest
    have hlength := (Plain.integer depth value hlow hhigh).length_write_pos
    obtain ⟨steps, rfl⟩ := Nat.exists_eq_add_of_le' (Nat.le_trans hlength hsteps)
    exact readValue_writeInteger hlow hhigh steps depth hrest
  | string depth value =>
    intro steps rest hsteps _
    have hlength := (Plain.string depth value).length_write_pos
    obtain ⟨steps, rfl⟩ := Nat.exists_eq_add_of_le' (Nat.le_trans hlength hsteps)
    exact readValue_writeString value
  | array helements ih => exact readsBack_array helements ih
  | object hmembers ih => exact readsBack_object ih

/-- The compact text of a plain value reads back as the value. -/
theorem parse_compact (hplain : Plain nestingLimit value) : parse value.compact = .ok value := by
  have hread := readValue_write hplain (2 * (write value).length + 2) [] (by omega)
    (fun c hc ↦ absurd hc (by simp))
  rw [List.append_nil] at hread
  rw [parse, compact, String.toList_ofList, parseChars, hread]
  rfl

end Values

end ResourceLookup.Json
