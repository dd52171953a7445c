import Mathlib.Data.Nat.Digits.Defs
import ResourceLookup.Text.Casing

/-!
# Decimal digits

Numbers are written in decimal digits (`Nat.toDigits`) and read digit by digit from the first one
on (`Text.numberOf`). The digits of a number read back as the number (`Text.numberOf_toDigits`),
also behind zeros (`Text.numberOf_zeros_append`), and the first of them is zero only where the
number is (`Text.eq_zero_of_toDigits`).
-/

set_option autoImplicit false
set_option relaxedAutoImplicit false

namespace ResourceLookup.Text

/-- The number that digits write down. -/
def numberOf (digits : List Char) : Nat :=
  digits.foldl (fun total c ↦ total * 10 + digitValue c) 0

section Digits

variable {digits : List Char} {n : Nat}

theorem numberOf_eq_ofDigitChars (digits : List Char) :
    numberOf digits = Nat.ofDigitChars 10 digits 0 := by
  rw [Nat.ofDigitChars_eq_foldl, numberOf]
  congr 1
  funext total c
  rw [Nat.mul_comm, digitValue]
  rfl

/-- The digits of a number read back as the number. -/
theorem numberOf_toDigits (n : Nat) : numberOf (Nat.toDigits 10 n) = n := by
  rw [numberOf_eq_ofDigitChars, Nat.ofDigitChars_ten_toDigits]

/-- Zeros in front of digits count for nothing. -/
theorem numberOf_zeros_append (count : Nat) (digits : List Char) :
    numberOf (List.replicate count '0' ++ digits) = numberOf digits := by
  rw [numberOf_eq_ofDigitChars, numberOf_eq_ofDigitChars, Nat.ofDigitChars_append,
    Nat.ofDigitChars_replicate_zero, Nat.mul_zero]

theorem isAsciiDigit_of_isDigit {c : Char} (hdigit : c.isDigit = true) :
    isAsciiDigit c = true := by
  have hbounds : 48 ≤ c.toNat ∧ c.toNat ≤ 57 := by
    simpa [Char.isDigit, UInt32.le_iff_toNat_le] using hdigit
  simp [isAsciiDigit, hbounds]

theorem all_isAsciiDigit_toDigits (n : Nat) :
    ∀ c ∈ Nat.toDigits 10 n, isAsciiDigit c = true :=
  fun _ hc ↦ isAsciiDigit_of_isDigit (Nat.isDigit_of_mem_toDigits (by decide) (by decide) hc)

/-- Digits that begin with a zero are those of zero. -/
theorem eq_zero_of_toDigits (n : Nat) {rest : List Char}
    (hdigits : Nat.toDigits 10 n = '0' :: rest) : n = 0 := by
  induction n using Nat.strong_induction_on generalizing rest with
  | _ n ih =>
    by_cases hsmall : n < 10
    · rw [Nat.toDigits_of_lt_base hsmall] at hdigits
      have hzero : ∀ m < 10, Nat.digitChar m = '0' → m = 0 := by decide
      exact hzero n hsmall (List.cons.inj hdigits).1
    · rw [Nat.toDigits_of_base_le (by decide) (by omega)] at hdigits
      obtain ⟨first, more, hmore⟩ := List.exists_cons_of_ne_nil
        (@Nat.toDigits_ne_nil (n / 10) 10)
      rw [hmore, List.cons_append] at hdigits
      obtain ⟨rfl, -⟩ := List.cons.inj hdigits
      have hzero := ih (n / 10) (by omega) hmore
      omega

end Digits

/-! ### Digits at the start of a text -/

/-- A text that does not go on with a digit. -/
def EndsDigits (rest : List Char) : Prop :=
  ∀ c ∈ rest.head?, isAsciiDigit c = false

section Spanning

variable {digits rest : List Char}

theorem takeWhile_digits_append (hdigits : ∀ c ∈ digits, isAsciiDigit c = true)
    (hrest : EndsDigits rest) : (digits ++ rest).takeWhile isAsciiDigit = digits := by
  rw [List.takeWhile_append_of_pos hdigits]
  cases rest with
  | nil => exact List.append_nil digits
  | cons c rest =>
    rw [List.takeWhile_cons_of_neg (ne_true_of_eq_false (hrest c rfl)), List.append_nil]

theorem dropWhile_digits_append (hdigits : ∀ c ∈ digits, isAsciiDigit c = true)
    (hrest : EndsDigits rest) : (digits ++ rest).dropWhile isAsciiDigit = rest := by
  rw [List.dropWhile_append_of_pos hdigits]
  cases rest with
  | nil => rfl
  | cons c rest => exact List.dropWhile_cons_of_neg (ne_true_of_eq_false (hrest c rfl))

end Spanning

end ResourceLookup.Text
