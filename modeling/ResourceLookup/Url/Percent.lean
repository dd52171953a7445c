import ResourceLookup.Text.Octets

/-!
# Percent escapes

An octet is escaped as a percent sign and two hexadecimal digits. `Percent.decode` replaces every
escape by its octet and keeps everything else, percent signs that start no escape included; it
decodes once and does not look at what it wrote. `Percent.wellFormed` holds if every percent sign
starts an escape.

An octet that is no digit ends no escape, so that one at the end of a text is kept
(`Percent.decode_concat`).
-/

set_option autoImplicit false
set_option relaxedAutoImplicit false

namespace ResourceLookup.Percent

/-- The percent sign. -/
def percentSign : UInt8 := 0x25

/-- The value of a hexadecimal digit given as an octet. -/
def digitValue? (byte : UInt8) : Option Nat :=
  Text.hexValue? (Char.ofNat byte.toNat)

/-- The octet that two hexadecimal digits write down. -/
def escaped? (high low : UInt8) : Option UInt8 :=
  match digitValue? high, digitValue? low with
  | some high, some low => some (UInt8.ofNat (16 * high + low))
  | _, _ => none

/-- The octets with every escape replaced by the octet it stands for. -/
def decode : List UInt8 → List UInt8
  | first :: high :: low :: rest =>
    if first = percentSign then
      match escaped? high low with
      | some byte => byte :: decode rest
      | none => first :: decode (high :: low :: rest)
    else first :: decode (high :: low :: rest)
  | short => short

/-- Whether every percent sign starts an escape. -/
def wellFormed : List UInt8 → Bool
  | first :: high :: low :: rest =>
    if first = percentSign then (escaped? high low).isSome && wellFormed rest
    else wellFormed (high :: low :: rest)
  | short => !short.contains percentSign

/-- Whether some percent sign starts an escape. -/
def hasEscape : List UInt8 → Bool
  | first :: high :: low :: rest =>
    (first = percentSign && (escaped? high low).isSome) || hasEscape (high :: low :: rest)
  | _ => false

/-- The text with every escape replaced, if that is valid UTF-8. -/
def decodeText? (text : String) : Option String :=
  Text.ofOctets? (decode (Text.octets text))

/-- The escape of an octet, with capital digits. -/
def escape (byte : UInt8) : List UInt8 :=
  [percentSign, UInt8.ofNat (Text.hexDigitUpper (byte.toNat / 16)).toNat,
    UInt8.ofNat (Text.hexDigitUpper (byte.toNat % 16)).toNat]

/-! ### One octet or one escape at a time -/

theorem decode_cons_of_ne {byte : UInt8} (hbyte : byte ≠ percentSign) (rest : List UInt8) :
    decode (byte :: rest) = byte :: decode rest := by
  match rest with
  | [] => rfl
  | [_] => rfl
  | _ :: _ :: _ => rw [decode, if_neg hbyte]

theorem decode_escape {high low value : UInt8} (hvalue : escaped? high low = some value)
    (rest : List UInt8) : decode (percentSign :: high :: low :: rest) = value :: decode rest := by
  rw [decode, if_pos rfl, hvalue]

theorem escaped?_hexDigitUpper (byte : UInt8) :
    escaped? (UInt8.ofNat (Text.hexDigitUpper (byte.toNat / 16)).toNat)
      (UInt8.ofNat (Text.hexDigitUpper (byte.toNat % 16)).toNat) = some byte := by
  revert byte
  exact Text.forall_octet (by decide +kernel)

/-- The escape of an octet is decoded to the octet, whatever follows. -/
theorem decode_escape_append (byte : UInt8) (rest : List UInt8) :
    decode (escape byte ++ rest) = byte :: decode rest :=
  decode_escape (escaped?_hexDigitUpper byte) rest

theorem wellFormed_cons_of_ne {byte : UInt8} (hbyte : byte ≠ percentSign) (rest : List UInt8) :
    wellFormed (byte :: rest) = wellFormed rest := by
  match rest with
  | [] => simp [wellFormed, hbyte.symm]
  | [_] => simp [wellFormed, hbyte.symm]
  | _ :: _ :: _ => rw [wellFormed, if_neg hbyte]

/-! ### Octets that are no digits -/

theorem escaped?_of_digitValue?_eq_none (high : UInt8) {low : UInt8}
    (hlow : digitValue? low = none) : escaped? high low = none := by
  rw [escaped?, hlow]
  cases digitValue? high <;> rfl

/-- An octet at the end of a text that is no digit is kept. -/
theorem decode_concat (bytes : List UInt8) {byte : UInt8} (hbyte : digitValue? byte = none) :
    decode (bytes ++ [byte]) = decode bytes ++ [byte] := by
  fun_induction decode bytes with
  | case1 high low rest value hvalue ih =>
    simp only [List.cons_append] at ih ⊢
    rw [decode, if_pos rfl, hvalue]
    simp only [ih]
  | case2 high low rest hvalue ih =>
    simp only [List.cons_append] at ih ⊢
    rw [decode, if_pos rfl, hvalue]
    simp only [ih]
  | case3 first high low rest hfirst ih =>
    simp only [List.cons_append] at ih ⊢
    rw [decode, if_neg hfirst, ih]
  | case4 short hshort =>
    -- Only with two octets in front of it does the new one have a place in an escape.
    match short, hshort with
    | [], _ => rfl
    | [_], _ => rfl
    | [first, second], _ =>
      rw [List.cons_append, List.cons_append, List.nil_append, decode]
      rw [escaped?_of_digitValue?_eq_none second hbyte]
      split <;> rfl
    | first :: second :: third :: rest, hshort => exact absurd rfl (hshort first second third rest)

end ResourceLookup.Percent
