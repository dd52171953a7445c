import Mathlib.Data.List.Infix
import ResourceLookup.Text.Casing
import ResourceLookup.Url.Percent

/-!
# What escapes stand for

Octets in which every percent sign starts an escape are read piece by piece: an octet that stands
for itself, or an escape. `Percent.Reading` is that way of reading as a relation between octets and
what they stand for, and `Percent.Reading.decode_eq` and `Percent.reading_decode` say that decoding
follows it. A reading is cut in two at any octet that is no hexadecimal digit
(`Percent.Reading.split`), so that what such octets stand for within a text is within what the text
stands for (`Percent.Reading.within`). Letter case makes no difference to an escape
(`Percent.Reading.lower`).

On characters, `Percent.EscapesComplete` and `Percent.ContainsEscape` say of a text that all its
percent signs start escapes, and that some percent sign does. A text that contains no escape is the
one that decoding keeps (`Percent.decodeText?_eq_self_iff`).
-/

set_option autoImplicit false
set_option relaxedAutoImplicit false

namespace ResourceLookup

/-! ### Letter case of octets -/

namespace Text

/-- The lower case of an ASCII capital letter given as an octet; every other octet is kept. -/
def asciiLowerOctet (byte : UInt8) : UInt8 :=
  if 65 ≤ byte.toNat ∧ byte.toNat ≤ 90 then UInt8.ofNat (byte.toNat + 32) else byte

theorem utf8EncodeChar_lower_of_lt (c : Char) (hc : c.toNat < 128) :
    String.utf8EncodeChar (asciiLowerChar c) =
      (String.utf8EncodeChar c).map asciiLowerOctet := by
  revert c
  exact forall_ascii (by decide +kernel)

/-- The octets of a text in lower case. -/
theorem flatMap_utf8EncodeChar_lower (text : List Char) :
    (text.map asciiLowerChar).flatMap String.utf8EncodeChar =
      (text.flatMap String.utf8EncodeChar).map asciiLowerOctet := by
  induction text with
  | nil => rfl
  | cons c text ih =>
    rw [List.map_cons, List.flatMap_cons, List.flatMap_cons, List.map_append, ih]
    refine congrArg (· ++ _) ?_
    by_cases hc : c.toNat < 128
    · exact utf8EncodeChar_lower_of_lt c hc
    · -- Neither the character nor one of its octets is a capital letter.
      have hlarge := Nat.le_of_not_lt hc
      have hoctets : (String.utf8EncodeChar c).map asciiLowerOctet =
          (String.utf8EncodeChar c).map id := by
        refine List.map_congr_left fun byte hbyte ↦ if_neg ?_
        have hoctet := le_of_mem_utf8EncodeChar hlarge hbyte
        omega
      rw [asciiLowerChar_of_le hlarge, hoctets, List.map_id]

end Text

namespace Percent

/-! ### Readings -/

/-- Octets and what they stand for, where every percent sign starts an escape. -/
inductive Reading : List UInt8 → List UInt8 → Prop where
  | nil : Reading [] []
  | plain {byte : UInt8} {bytes out : List UInt8} (hbyte : byte ≠ percentSign)
      (hrest : Reading bytes out) : Reading (byte :: bytes) (byte :: out)
  | escape {high low value : UInt8} {bytes out : List UInt8}
      (hvalue : escaped? high low = some value) (hrest : Reading bytes out) :
      Reading (percentSign :: high :: low :: bytes) (value :: out)

/-- Well-formed octets are read, and decoded to what they stand for. -/
theorem reading_decode {bytes : List UInt8} (hbytes : wellFormed bytes = true) :
    Reading bytes (decode bytes) := by
  fun_induction wellFormed bytes with
  | case1 high low rest ih =>
    rw [Bool.and_eq_true, Option.isSome_iff_exists] at hbytes
    obtain ⟨⟨value, hvalue⟩, hrest⟩ := hbytes
    rw [decode_escape hvalue]
    exact .escape hvalue (ih hrest)
  | case2 first high low rest hfirst ih =>
    rw [decode_cons_of_ne hfirst]
    exact .plain hfirst (ih hbytes)
  | case3 short hshort =>
    -- Too short for an escape, so that no octet is a percent sign.
    have hplain : ∀ byte ∈ short, byte ≠ percentSign := by
      rintro byte hbyte rfl
      simp [hbyte] at hbytes
    match short, hshort with
    | [], _ => exact .nil
    | [first], _ => exact .plain (hplain first (by simp)) .nil
    | [first, second], _ =>
      exact .plain (hplain first (by simp)) (.plain (hplain second (by simp)) .nil)
    | first :: second :: third :: rest, hshort => exact absurd rfl (hshort first second third rest)

namespace Reading

variable {bytes out first second meaning : List UInt8}

/-- Decoding gives what octets stand for. -/
theorem decode_eq (hreading : Reading bytes out) : decode bytes = out := by
  induction hreading with
  | nil => rfl
  | plain hbyte _ ih => rw [decode_cons_of_ne hbyte, ih]
  | escape hvalue _ ih => rw [decode_escape hvalue, ih]

theorem digitValue?_of_escaped? {high low value : UInt8} (hvalue : escaped? high low = some value) :
    digitValue? high ≠ none ∧ digitValue? low ≠ none := by
  constructor <;> intro hnone <;> rw [escaped?, hnone] at hvalue
  · cases hvalue
  · cases hhigh : digitValue? high <;> rw [hhigh] at hvalue <;> cases hvalue

/-- A reading is cut in two in front of an octet that is no digit. -/
theorem split {before behind : List UInt8} {mark : UInt8} (hmark : digitValue? mark = none)
    (hreading : Reading (before ++ mark :: behind) out) :
    ∃ out₁ out₂, out = out₁ ++ out₂ ∧ Reading before out₁ ∧ Reading (mark :: behind) out₂ := by
  generalize hbytes : before ++ mark :: behind = bytes at hreading
  induction hreading generalizing before with
  | nil => exact absurd hbytes (List.append_ne_nil_of_right_ne_nil _ (List.cons_ne_nil _ _))
  | @plain byte bytes out hbyte hrest ih =>
    cases before with
    | nil =>
      refine ⟨[], byte :: out, rfl, .nil, ?_⟩
      rw [← List.nil_append (mark :: behind), hbytes]
      exact .plain hbyte hrest
    | cons first before =>
      obtain ⟨rfl, hbehind⟩ := List.cons.inj hbytes
      obtain ⟨out₁, out₂, rfl, hbefore, hmarked⟩ := ih hbehind
      exact ⟨first :: out₁, out₂, rfl, .plain hbyte hbefore, hmarked⟩
  | @escape high low value bytes out hvalue hrest ih =>
    have hdigits := digitValue?_of_escaped? hvalue
    -- The octet is none of the two digits, so that the escape is whole on either side.
    match before, hbytes with
    | [], hbytes =>
      refine ⟨[], value :: out, rfl, .nil, ?_⟩
      rw [← List.nil_append (mark :: behind), hbytes]
      exact .escape hvalue hrest
    | [_], hbytes =>
      obtain rfl : mark = high := by simp at hbytes; exact hbytes.2.1
      exact absurd hmark hdigits.1
    | [_, _], hbytes =>
      obtain rfl : mark = low := by simp at hbytes; exact hbytes.2.2.1
      exact absurd hmark hdigits.2
    | _ :: _ :: _ :: before, hbytes =>
      simp only [List.cons_append, List.cons.injEq] at hbytes
      obtain ⟨rfl, rfl, rfl, hbehind⟩ := hbytes
      obtain ⟨out₁, out₂, rfl, hbefore, hmarked⟩ := ih hbehind
      exact ⟨value :: out₁, out₂, rfl, .escape hvalue hbefore, hmarked⟩

/-- Decoding goes on behind what was read. -/
theorem decode_append (hreading : Reading first meaning) (second : List UInt8) :
    decode (first ++ second) = meaning ++ decode second := by
  induction hreading with
  | nil => rfl
  | plain hbyte _ ih => rw [List.cons_append, decode_cons_of_ne hbyte, ih, List.cons_append]
  | escape hvalue _ ih =>
    rw [List.cons_append, List.cons_append, List.cons_append, decode_escape hvalue, ih,
      List.cons_append]

/-- What octets stand for within others is within what the others stand for, if the first of them is
no digit. -/
theorem within {mark : UInt8} (hmark : digitValue? mark = none)
    (hneedle : Reading (mark :: first) meaning) (hreading : Reading bytes out)
    (hwithin : mark :: first <:+: bytes) : meaning <:+: out := by
  obtain ⟨before, behind, rfl⟩ := hwithin
  rw [List.append_assoc, List.cons_append] at hreading
  obtain ⟨out₁, out₂, rfl, -, hmarked⟩ := hreading.split hmark
  rw [← hmarked.decode_eq, ← List.cons_append, hneedle.decode_append]
  exact ⟨out₁, decode behind, List.append_assoc _ _ _⟩

theorem lower_ne_percentSign (byte : UInt8) (hbyte : byte ≠ percentSign) :
    Text.asciiLowerOctet byte ≠ percentSign := by
  revert byte
  exact Text.forall_octet (by decide +kernel)

theorem lower_lower (byte : UInt8) :
    Text.asciiLowerOctet (Text.asciiLowerOctet byte) = Text.asciiLowerOctet byte := by
  revert byte
  exact Text.forall_octet (by decide +kernel)

theorem digitValue?_lower (byte : UInt8) :
    digitValue? (Text.asciiLowerOctet byte) = digitValue? byte := by
  revert byte
  exact Text.forall_octet (by decide +kernel)

/-- Octets in lower case stand for the same in lower case. -/
theorem lower (hreading : Reading bytes out) :
    ∃ lowered, Reading (bytes.map Text.asciiLowerOctet) lowered ∧
      lowered.map Text.asciiLowerOctet = out.map Text.asciiLowerOctet := by
  induction hreading with
  | nil => exact ⟨[], .nil, rfl⟩
  | @plain byte bytes out hbyte _ ih =>
    obtain ⟨lowered, hlowered, hsame⟩ := ih
    refine ⟨Text.asciiLowerOctet byte :: lowered,
      .plain (lower_ne_percentSign byte hbyte) hlowered, ?_⟩
    rw [List.map_cons, List.map_cons, lower_lower, hsame]
  | @escape high low value bytes out hvalue _ ih =>
    obtain ⟨lowered, hlowered, hsame⟩ := ih
    refine ⟨value :: lowered, .escape ?_ hlowered, ?_⟩
    · rw [escaped?, digitValue?_lower, digitValue?_lower]
      exact hvalue
    · rw [List.map_cons, List.map_cons, hsame]

end Reading

/-- Octets are read exactly if every percent sign among them starts an escape. -/
theorem wellFormed_iff {bytes : List UInt8} :
    wellFormed bytes = true ↔ ∃ out, Reading bytes out := by
  refine ⟨fun hbytes ↦ ⟨_, reading_decode hbytes⟩, ?_⟩
  rintro ⟨out, hreading⟩
  induction hreading with
  | nil => rfl
  | plain hbyte _ ih => rw [wellFormed_cons_of_ne hbyte, ih]
  | escape hvalue _ ih => rw [wellFormed, if_pos rfl, hvalue, ih]; rfl

/-! ### Octets that decoding keeps -/

theorem length_decode_le (bytes : List UInt8) : (decode bytes).length ≤ bytes.length := by
  fun_induction decode bytes with
  | case1 high low rest value hvalue ih => simp only [List.length_cons]; omega
  | case2 high low rest hvalue ih => simp only [List.length_cons] at ih ⊢; omega
  | case3 first high low rest hfirst ih => simp only [List.length_cons] at ih ⊢; omega
  | case4 short hshort => exact Nat.le_refl _

/-- Decoding an escape leaves fewer octets. -/
theorem length_decode_lt {bytes : List UInt8} (hescape : hasEscape bytes = true) :
    (decode bytes).length < bytes.length := by
  fun_induction decode bytes with
  | case1 high low rest value hvalue ih =>
    have hrest := length_decode_le rest
    simp only [List.length_cons]
    omega
  | case2 high low rest hvalue ih =>
    rw [hasEscape, hvalue] at hescape
    have hshorter := ih (by simpa using hescape)
    simp only [List.length_cons] at hshorter ⊢
    omega
  | case3 first high low rest hfirst ih =>
    rw [hasEscape] at hescape
    have hshorter := ih (by simpa [hfirst] using hescape)
    simp only [List.length_cons] at hshorter ⊢
    omega
  | case4 short hshort =>
    rw [hasEscape.eq_2 _ hshort] at hescape
    cases hescape

/-- Decoding keeps octets exactly if there is no escape among them. -/
theorem decode_eq_self_iff {bytes : List UInt8} :
    decode bytes = bytes ↔ hasEscape bytes = false := by
  constructor
  · intro hkept
    by_contra hescape
    have hshorter := length_decode_lt (Bool.of_not_eq_false hescape)
    rw [hkept] at hshorter
    exact Nat.lt_irrefl _ hshorter
  · intro hnone
    fun_induction decode bytes with
    | case1 high low rest value hvalue ih =>
      rw [hasEscape, hvalue] at hnone
      simp at hnone
    | case2 high low rest hvalue ih =>
      rw [hasEscape, Bool.or_eq_false_iff] at hnone
      rw [ih hnone.2]
    | case3 first high low rest hfirst ih =>
      rw [hasEscape, Bool.or_eq_false_iff] at hnone
      rw [ih hnone.2]
    | case4 short hshort => rfl

theorem hasEscape_iff {bytes : List UInt8} :
    hasEscape bytes = true ↔ ∃ high low, (escaped? high low).isSome = true ∧
      [percentSign, high, low] <:+: bytes := by
  fun_induction hasEscape bytes with
  | case1 first high low rest ih =>
    rw [Bool.or_eq_true, ih]
    constructor
    · rintro (hfirst | ⟨high', low', hsome, hwithin⟩)
      · rw [Bool.and_eq_true, decide_eq_true_iff] at hfirst
        obtain ⟨rfl, hsome⟩ := hfirst
        exact ⟨high, low, hsome, [], rest, rfl⟩
      · exact ⟨high', low', hsome, List.infix_cons hwithin⟩
    · rintro ⟨high', low', hsome, hwithin⟩
      rcases List.infix_cons_iff.mp hwithin with hstart | hlater
      · simp only [List.cons_prefix_cons, List.nil_prefix, and_true] at hstart
        obtain ⟨hfirst, rfl, rfl⟩ := hstart
        exact .inl (by rw [hsome, Bool.and_true, decide_eq_true_iff, hfirst])
      · exact .inr ⟨high', low', hsome, hlater⟩
  | case2 short hshort =>
    refine ⟨nofun, ?_⟩
    rintro ⟨high, low, -, hwithin⟩
    match short, hshort with
    | [], _ | [_], _ | [_, _], _ => exact absurd hwithin.length_le (by simp)
    | first :: second :: third :: rest, hshort => exact absurd rfl (hshort first second third rest)

/-! ### Escapes in texts -/

/-- Whether a character is a hexadecimal digit. -/
def isHexDigit (c : Char) : Bool :=
  (Text.hexValue? c).isSome

/-- Some percent sign of a text has two hexadecimal digits behind it. -/
def ContainsEscape (text : List Char) : Prop :=
  ∃ high low, isHexDigit high = true ∧ isHexDigit low = true ∧ ['%', high, low] <:+: text

/-- Every percent sign of a text has two hexadecimal digits behind it. -/
def EscapesComplete (text : List Char) : Prop :=
  ∀ before behind, text = before ++ '%' :: behind → ∃ high low rest,
    behind = high :: low :: rest ∧ isHexDigit high = true ∧ isHexDigit low = true

theorem lt_of_isHexDigit {c : Char} (hc : isHexDigit c = true) : c.toNat < 128 := by
  by_contra hlarge
  have hnone : Text.hexValue? c = none := by
    rw [Text.hexValue?, if_neg, if_neg, if_neg] <;> simp <;> omega
  rw [isHexDigit, hnone] at hc
  cases hc

/-- Letter case neither makes nor unmakes percent signs and digits. -/
theorem lower_of_lt (c : Char) (hc : c.toNat < 128) : (Text.asciiLowerChar c = '%' → c = '%') ∧
    isHexDigit (Text.asciiLowerChar c) = isHexDigit c := by
  revert c
  exact Text.forall_ascii (by decide +kernel)

/-- A text that contains an escape in lower case contains one as it is. -/
theorem ContainsEscape.of_lower {text : List Char}
    (hescape : ContainsEscape (text.map Text.asciiLowerChar)) : ContainsEscape text := by
  have hlower : ∀ c, (Text.asciiLowerChar c = '%' → c = '%') ∧
      isHexDigit (Text.asciiLowerChar c) = isHexDigit c := by
    intro c
    by_cases hc : c.toNat < 128
    · exact lower_of_lt c hc
    · rw [Text.asciiLowerChar_of_le (Nat.le_of_not_lt hc)]
      exact ⟨id, rfl⟩
  obtain ⟨high, low, hhigh, hlow, hwithin⟩ := hescape
  obtain ⟨part, hpart, hsame⟩ := List.infix_map_iff.mp hwithin
  obtain ⟨first, second, third, rfl⟩ : ∃ first second third, part = [first, second, third] :=
    List.length_eq_three.mp (by simpa using (congrArg List.length hsame).symm)
  simp only [List.map_cons, List.map_nil, List.cons.injEq, and_true] at hsame
  obtain ⟨hfirst, rfl, rfl⟩ := hsame
  obtain rfl := (hlower first).1 hfirst.symm
  exact ⟨second, third, (hlower second).2 ▸ hhigh, (hlower third).2 ▸ hlow, hpart⟩

theorem isHexDigit_ofNat (byte : UInt8) :
    isHexDigit (Char.ofNat byte.toNat) = (digitValue? byte).isSome := rfl

theorem escaped?_isSome {high low : UInt8} : (escaped? high low).isSome =
    (isHexDigit (Char.ofNat high.toNat) && isHexDigit (Char.ofNat low.toNat)) := by
  rw [isHexDigit_ofNat, isHexDigit_ofNat, escaped?]
  cases digitValue? high <;> cases digitValue? low <;> rfl

/-- An escape is within the octets of a text exactly where its characters are within the text. -/
theorem escape_isInfix_iff {high low : Char} {text : List Char} (hhigh : isHexDigit high = true)
    (hlow : isHexDigit low = true) :
    [percentSign, UInt8.ofNat high.toNat, UInt8.ofNat low.toNat] <:+:
      text.flatMap String.utf8EncodeChar ↔ ['%', high, low] <:+: text := by
  have hascii : ∀ c ∈ ['%', high, low], c.toNat < 128 := by
    simp [lt_of_isHexDigit hhigh, lt_of_isHexDigit hlow]
  rw [← Text.octets_isInfix_iff hascii, Text.flatMap_utf8EncodeChar_of_lt hascii]
  rfl

/-- Two digits as characters are an escape as octets. -/
theorem escaped?_isSome_of_isHexDigit {high low : Char} (hhigh : isHexDigit high = true)
    (hlow : isHexDigit low = true) :
    (escaped? (UInt8.ofNat high.toNat) (UInt8.ofNat low.toNat)).isSome = true := by
  rw [escaped?_isSome, Text.toNat_ofNat_of_lt (lt_of_isHexDigit hhigh),
    Text.toNat_ofNat_of_lt (lt_of_isHexDigit hlow), Char.ofNat_toNat, Char.ofNat_toNat, hhigh, hlow]
  rfl

theorem toNat_ofNat_octet (byte : UInt8) : (Char.ofNat byte.toNat).toNat = byte.toNat := by
  have hbyte := byte.toNat_lt
  have hvalid : byte.toNat.isValidChar := .inl (by omega)
  rw [Char.ofNat, dif_pos hvalid]
  rfl

/-- Two octets that are an escape are two digits as characters. -/
theorem exists_digits_of_isSome {high low : UInt8} (hsome : (escaped? high low).isSome = true) :
    ∃ high' low', isHexDigit high' = true ∧ isHexDigit low' = true ∧
      high = UInt8.ofNat high'.toNat ∧ low = UInt8.ofNat low'.toNat := by
  rw [escaped?_isSome, Bool.and_eq_true] at hsome
  refine ⟨_, _, hsome.1, hsome.2, ?_, ?_⟩ <;> rw [toNat_ofNat_octet, UInt8.ofNat_toNat]

/-- The octets of a text contain an escape exactly if its characters do. -/
theorem hasEscape_octets_iff {text : List Char} :
    hasEscape (text.flatMap String.utf8EncodeChar) = true ↔ ContainsEscape text := by
  rw [hasEscape_iff]
  constructor
  · rintro ⟨high, low, hsome, hwithin⟩
    obtain ⟨high, low, hhigh, hlow, rfl, rfl⟩ := exists_digits_of_isSome hsome
    exact ⟨high, low, hhigh, hlow, (escape_isInfix_iff hhigh hlow).mp hwithin⟩
  · rintro ⟨high, low, hhigh, hlow, hwithin⟩
    exact ⟨_, _, escaped?_isSome_of_isHexDigit hhigh hlow,
      (escape_isInfix_iff hhigh hlow).mpr hwithin⟩

/-- Decoding a text gives the same text exactly if it contains no escape. -/
theorem decodeText?_eq_self_iff {text : String} :
    decodeText? text = some text ↔ ¬ ContainsEscape text.toList := by
  rw [decodeText?, Text.ofOctets?_eq_some_iff, eq_comm, decode_eq_self_iff, Text.octets_eq,
    ← hasEscape_octets_iff, Bool.not_eq_true]

/-- Octets that stand for themselves are read one by one. -/
theorem Reading.plain_append {first second out : List UInt8}
    (hfirst : ∀ byte ∈ first, byte ≠ percentSign) (hreading : Reading second out) :
    Reading (first ++ second) (first ++ out) := by
  induction first with
  | nil => exact hreading
  | cons byte first ih =>
    rw [List.forall_mem_cons] at hfirst
    exact .plain hfirst.1 (ih hfirst.2)

/-- The octets of a character other than the percent sign stand for themselves. -/
theorem ne_percentSign_of_mem {c : Char} (hc : c ≠ '%') :
    ∀ byte ∈ String.utf8EncodeChar c, byte ≠ percentSign := by
  rintro byte hbyte rfl
  by_cases hascii : c.toNat < 128
  · rw [Text.utf8EncodeChar_of_lt hascii, List.mem_singleton] at hbyte
    have hcode := congrArg UInt8.toNat hbyte
    rw [Text.toNat_ofNat_of_lt hascii] at hcode
    exact hc (Char.toNat_inj.mp hcode.symm)
  · exact absurd (Text.le_of_mem_utf8EncodeChar (Nat.le_of_not_lt hascii) hbyte) (by decide)

/-- A text whose escapes are complete is read. -/
theorem EscapesComplete.exists_reading {text : List Char} (hcomplete : EscapesComplete text) :
    ∃ out, Reading (text.flatMap String.utf8EncodeChar) out := by
  match text, hcomplete with
  | [], _ => exact ⟨[], .nil⟩
  | c :: text, hcomplete =>
    by_cases hc : c = '%'
    · obtain ⟨high, low, rest, rfl, hhigh, hlow⟩ := hcomplete [] text (by rw [hc]; rfl)
      have hrest : EscapesComplete rest := by
        intro before behind hbehind
        exact hcomplete (c :: high :: low :: before) behind (by rw [hbehind]; rfl)
      obtain ⟨out, hout⟩ := hrest.exists_reading
      obtain ⟨value, hvalue⟩ :=
        Option.isSome_iff_exists.mp (escaped?_isSome_of_isHexDigit hhigh hlow)
      refine ⟨value :: out, ?_⟩
      rw [hc, List.flatMap_cons, List.flatMap_cons, List.flatMap_cons,
        Text.utf8EncodeChar_of_lt (lt_of_isHexDigit hhigh),
        Text.utf8EncodeChar_of_lt (lt_of_isHexDigit hlow)]
      exact .escape hvalue hout
    · have hrest : EscapesComplete text := by
        intro before behind hbehind
        exact hcomplete (c :: before) behind (by rw [hbehind]; rfl)
      obtain ⟨out, hout⟩ := hrest.exists_reading
      exact ⟨_, hout.plain_append (ne_percentSign_of_mem hc)⟩
termination_by text.length

/-- The octets of a text are well-formed exactly if its escapes are complete. -/
theorem wellFormed_octets_iff {text : List Char} :
    wellFormed (text.flatMap String.utf8EncodeChar) = true ↔ EscapesComplete text := by
  rw [wellFormed_iff]
  refine ⟨?_, EscapesComplete.exists_reading⟩
  rintro ⟨out, hreading⟩ before behind rfl
  have hpercent : String.utf8EncodeChar '%' = [percentSign] := rfl
  rw [List.flatMap_append, List.flatMap_cons, hpercent, List.singleton_append] at hreading
  obtain ⟨out₁, out₂, -, -, hmarked⟩ := hreading.split (by decide)
  generalize hbehind : behind.flatMap String.utf8EncodeChar = octets at hmarked
  cases hmarked with
  | plain hbyte _ => exact absurd rfl hbyte
  | @escape high low value octets _ hvalue _ =>
    have hsome : (escaped? high low).isSome = true := by rw [hvalue]; rfl
    obtain ⟨high, low, hhigh, hlow, rfl, rfl⟩ := exists_digits_of_isSome hsome
    obtain ⟨rest, rfl, hrest⟩ := Text.exists_cons_of_flatMap_utf8EncodeChar hbehind
      (lt_of_isHexDigit hhigh)
    obtain ⟨rest, rfl, -⟩ := Text.exists_cons_of_flatMap_utf8EncodeChar hrest
      (lt_of_isHexDigit hlow)
    exact ⟨high, low, rest, rfl, hhigh, hlow⟩

end Percent

end ResourceLookup
