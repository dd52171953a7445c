import ResourceLookup.Proofs.CalendarDates
import ResourceLookup.Proofs.DecimalDigits
import ResourceLookup.Proofs.TextEnds
import ResourceLookup.Time.Timestamp

/-!
# Points in time read back

The written form of a point in time reads back as the same point in time, told in the same offset
(`Timestamp.parse?_of_write?`). It is read in the parts in which it is written, so there is one
statement for each part: numbers of a fixed width (`takeNumber?_padded`), the fraction of a second
(`takeFraction?_writeFraction`) and the offset (`takeOffset?_writeOffset`), each with any text
behind it. The parts are those of the calendar and the clock (`ofParts?_parts`).
-/

set_option autoImplicit false
set_option relaxedAutoImplicit false

namespace ResourceLookup.Timestamp

open Calendar Text

/-! ### Numbers of a fixed width -/

section Padding

variable {width value : Nat}

theorem length_padded (hwidth : 0 < width) (hvalue : value < 10 ^ width) :
    (padded width value).length = width := by
  have hlength := (Nat.length_toDigits_le_iff (by decide : 1 < 10) hwidth).mpr hvalue
  rw [padded, List.length_append, List.length_replicate]
  omega

theorem all_isAsciiDigit_padded : ∀ c ∈ padded width value, isAsciiDigit c = true := by
  intro c hc
  rcases List.mem_append.mp hc with hzero | hdigit
  · rw [List.eq_of_mem_replicate hzero]
    rfl
  · exact all_isAsciiDigit_toDigits value c hdigit

theorem numberOf_padded : numberOf (padded width value) = value := by
  rw [padded, numberOf_zeros_append, numberOf_toDigits]

/-- A number of a fixed width reads back. -/
theorem takeNumber?_padded (hwidth : 0 < width) (hvalue : value < 10 ^ width) (rest : List Char) :
    takeNumber? width (padded width value ++ rest) = some (value, rest) := by
  have hlength := length_padded hwidth hvalue
  have htake : (padded width value ++ rest).take width = padded width value :=
    List.take_left' hlength
  have hdrop : (padded width value ++ rest).drop width = rest := List.drop_left' hlength
  have hdigits : (padded width value).all isAsciiDigit = true :=
    List.all_eq_true.mpr all_isAsciiDigit_padded
  simp only [takeNumber?, htake, hdrop, hlength, hdigits, beq_self_eq_true, Bool.and_self, if_true]
  exact congrArg (fun number ↦ some (number, rest)) numberOf_padded

end Padding

theorem takeMark?_cons (mark : Char) (rest : List Char) :
    takeMark? mark (mark :: rest) = some rest := by
  rw [takeMark?, if_pos (beq_self_eq_true mark)]

theorem takeSeparator?_cons {c : Char} (hc : c.toNat < 128) (rest : List Char) :
    takeSeparator? (c :: rest) = some rest := by
  rw [takeSeparator?, if_pos hc]

/-! ### Fractions -/

/-- Digits of a fraction, and the zeros that were left out behind them. -/
theorem fractionDigits_append_zeros (width fraction : Nat) :
    ∃ zeros, Duration.fractionDigits width fraction ++ List.replicate zeros '0' =
      padded width fraction := by
  obtain ⟨zeros, hzeros⟩ := exists_eq_rdropWhile_append_replicate '0' (padded width fraction)
  exact ⟨zeros, hzeros.symm⟩

section Fractions

variable {nanos : Nat} (hnanos : nanos < nanosPerSecond)
include hnanos

/-- The digits of a fraction of a second read back. -/
theorem fractionNanos_fractionDigits :
    fractionNanos (Duration.fractionDigits 9 nanos) = nanos := by
  obtain ⟨zeros, hzeros⟩ := fractionDigits_append_zeros 9 nanos
  have hlength := length_padded (by decide : 0 < 9) hnanos
  rw [← hzeros, List.length_append, List.length_replicate] at hlength
  have htake : (Duration.fractionDigits 9 nanos ++ List.replicate 9 '0').take 9 =
      padded 9 nanos := by
    have hcount : min (9 - (Duration.fractionDigits 9 nanos).length) 9 = zeros := by omega
    rw [List.take_append, List.take_of_length_le (by omega), List.take_replicate, hcount, hzeros]
  show numberOf ((Duration.fractionDigits 9 nanos ++ List.replicate 9 '0').take 9) = nanos
  rw [htake, numberOf_padded]

/-- A fraction of a second reads back. Assumes: the text behind it goes on neither with a digit nor
with a point. -/
theorem takeFraction?_writeFraction {rest : List Char} (hdigits : EndsDigits rest)
    (hpoint : ∀ c ∈ rest.head?, c ≠ '.') :
    takeFraction? (writeFraction nanos ++ rest) = some (nanos, rest) := by
  by_cases hzero : nanos = 0
  · obtain rfl := hzero
    show takeFraction? rest = some (0, rest)
    unfold takeFraction?
    split
    · exact absurd rfl (hpoint '.' rfl)
    · rfl
  · have hread : ∀ c ∈ Duration.fractionDigits 9 nanos, isAsciiDigit c = true := by
      obtain ⟨zeros, hzeros⟩ := fractionDigits_append_zeros 9 nanos
      intro c hc
      exact all_isAsciiDigit_padded c (hzeros ▸ List.mem_append_left _ hc)
    have hsome : (Duration.fractionDigits 9 nanos).isEmpty = false := by
      refine List.isEmpty_eq_false_iff.mpr fun hnone ↦ hzero ?_
      rw [← fractionNanos_fractionDigits hnanos, hnone]
      rfl
    rw [writeFraction, if_neg (by simpa using hzero), List.cons_append, takeFraction?,
      takeWhile_digits_append hread hdigits, dropWhile_digits_append hread hdigits, hsome,
      fractionNanos_fractionDigits hnanos]
    rfl

end Fractions

/-! ### Offsets -/

/-- The offset from universal time can be written: whole minutes, less than a day. -/
structure HasOffsetText (offset : Int) : Prop where
  whole : offset % 60 = 0
  within : offset.natAbs < 86400

/-- Hours and minutes behind a sign read back. -/
theorem takeOffset?_signed {sign : Char} (hsign : sign = '+' ∨ sign = '-') {minutes : Nat}
    (hminutes : minutes < 1440) :
    takeOffset? (sign :: (padded 2 (minutes / 60) ++ ':' :: padded 2 (minutes % 60))) =
      some (if sign == '-' then -(minutes * 60 : Int) else minutes * 60) := by
  have hhours : takeNumber? 2 (padded 2 (minutes / 60) ++ ':' :: padded 2 (minutes % 60)) =
      some (minutes / 60, ':' :: padded 2 (minutes % 60)) :=
    takeNumber?_padded (by decide) (by omega) _
  have hrest : takeNumber? 2 (padded 2 (minutes % 60)) = some (minutes % 60, []) := by
    have hread := takeNumber?_padded (by decide : 0 < 2) (by omega : minutes % 60 < 10 ^ 2) []
    rwa [List.append_nil] at hread
  have hlimits : (decide (minutes / 60 ≤ 23) && decide (minutes % 60 ≤ 59) &&
      ([] : List Char).isEmpty) = true := by
    simp only [List.isEmpty_nil, Bool.and_true, Bool.and_eq_true, decide_eq_true_eq]
    omega
  have hsum : ((minutes / 60 * 60 + minutes % 60 : Nat) : Int) = minutes := by omega
  simp only [takeOffset?, hhours, takeMark?_cons, hrest, hlimits, hsum, Option.bind_eq_bind,
    Option.bind_some]
  rcases hsign with rfl | rfl
  · rw [if_neg (by decide), if_pos (by decide), if_pos trivial]
  · rw [if_neg (by decide), if_pos (by decide), if_pos trivial]

/-- An offset reads back. -/
theorem takeOffset?_writeOffset {offset : Int} (hoffset : HasOffsetText offset) :
    takeOffset? (writeOffset offset) = some offset := by
  obtain ⟨hwhole, hwithin⟩ := hoffset
  by_cases hzero : offset = 0
  · rw [hzero]
    rfl
  · rw [writeOffset, if_neg (by simpa using hzero)]
    have hminutes : offset.natAbs / 60 < 1440 := by omega
    by_cases hnegative : offset < 0
    · have hvalue : -((offset.natAbs / 60 : Nat) * 60 : Int) = offset := by omega
      simp only [if_pos hnegative, takeOffset?_signed (.inr rfl) hminutes, hvalue]
      rfl
    · have hvalue : ((offset.natAbs / 60 : Nat) * 60 : Int) = offset := by omega
      simp only [if_neg hnegative, takeOffset?_signed (.inl rfl) hminutes, hvalue]
      rfl

/-- What an offset begins with. -/
theorem head?_writeOffset (offset : Int) :
    ∀ c ∈ (writeOffset offset).head?, isAsciiDigit c = false ∧ c ≠ '.' := by
  unfold writeOffset
  intro c hc
  by_cases hzero : (offset == 0) = true
  · rw [if_pos hzero] at hc
    obtain rfl := Option.some.inj hc
    decide
  · rw [if_neg hzero] at hc
    obtain rfl := Option.some.inj hc
    by_cases hnegative : offset < 0
    · rw [if_pos hnegative]
      decide
    · rw [if_neg hnegative]
      decide

/-! ### Points in time -/

/-- The clock of a point in time that does not end a minute by a leap second. -/
theorem timeOfDay_lt (localNanos : Int) : timeOfDay localNanos < 86400 * nanosPerSecond := by
  have hbound := Int.fmod_lt_of_pos localNanos (by decide : 0 < nanosPerDay)
  have hpositive := Int.fmod_nonneg_of_pos localNanos (by decide : 0 < nanosPerDay)
  unfold timeOfDay
  unfold nanosPerDay secondsPerDay nanosPerSecond at *
  omega

/-- A number of local nanoseconds is that of its date and its time of day. -/
theorem ofCivil_dateOf (localNanos : Int) :
    let clock := timeOfDay localNanos
    let seconds := clock / nanosPerSecond
    ofCivil (dateOf localNanos) (seconds / 3600) (seconds / 60 % 60) (seconds % 60)
      (clock % nanosPerSecond) = localNanos := by
  have hsplit := Int.mul_fdiv_add_fmod localNanos nanosPerDay
  have hpositive := Int.fmod_nonneg_of_pos localNanos (by decide : 0 < nanosPerDay)
  have hclock : ((timeOfDay localNanos : Nat) : Int) = localNanos.fmod nanosPerDay :=
    Int.toNat_of_nonneg hpositive
  intro clock seconds
  rw [ofCivil, dateOf, CivilDate.dayNumber_ofDayNumber]
  have hparts : ((seconds / 3600 * 60 + seconds / 60 % 60) * 60 + seconds % 60) * nanosPerSecond +
      clock % nanosPerSecond = clock := by
    unfold seconds nanosPerSecond
    omega
  rw [hparts, hclock, Int.mul_comm]
  exact hsplit

/-- The parts of a point in time are those from which it is put together. -/
theorem ofParts?_parts (time : Timestamp) :
    let clock := timeOfDay time.localNanos
    let seconds := clock / nanosPerSecond
    ofParts? (dateOf time.localNanos) (seconds / 3600) (seconds / 60 % 60) (seconds % 60)
      (clock % nanosPerSecond) time.offset = some time := by
  intro clock seconds
  have hclock : clock < 86400 * nanosPerSecond := timeOfDay_lt time.localNanos
  have hseconds : seconds < 86400 := Nat.div_lt_of_lt_mul (by rwa [Nat.mul_comm] at hclock)
  have hleap : (seconds % 60 == 60) = false := by
    rw [beq_eq_false_iff_ne]
    omega
  have hlimits : ((dateOf time.localNanos).valid && decide (seconds / 3600 ≤ 23) &&
      decide (seconds / 60 % 60 ≤ 59) && decide (seconds % 60 ≤ 59)) = true := by
    rw [dateOf, CivilDate.valid_ofDayNumber]
    simp only [Bool.true_and, Bool.and_eq_true, decide_eq_true_eq]
    omega
  simp only [ofParts?, hleap, Bool.false_eq_true, if_false, hlimits, if_true, Bool.false_and]
  exact congrArg (fun nanos ↦ some (⟨nanos, time.offset⟩ : Timestamp))
    (ofCivil_dateOf time.localNanos)

/-- Two digits of a part behind which any text follows. -/
theorem takeNumber?_two {value : Nat} (hvalue : value < 100) (rest : List Char) :
    takeNumber? 2 (padded 2 value ++ rest) = some (value, rest) :=
  takeNumber?_padded (by decide) hvalue rest

/-- The written form of a point in time reads back as the same point in time. -/
theorem parse?_of_write? {time : Timestamp} {text : String} (htext : time.write? = some text) :
    parse? text = some time := by
  simp only [write?] at htext
  split at htext
  · cases htext
  · next hwritable =>
    simp only [Bool.or_eq_true, decide_eq_true_eq, bne_iff_ne, not_or, Int.not_lt, not_not,
      Nat.not_le] at hwritable
    obtain ⟨⟨⟨hlow, hhigh⟩, hwhole⟩, hwithin⟩ := hwritable
    obtain rfl := Option.some.inj htext
    have hvalid : (dateOf time.localNanos).valid = true := CivilDate.valid_ofDayNumber _
    obtain ⟨hmonth, hday⟩ := CivilDate.lt_of_valid hvalid
    have hclock := timeOfDay_lt time.localNanos
    have hseconds : timeOfDay time.localNanos / nanosPerSecond < 86400 :=
      Nat.div_lt_of_lt_mul (by rwa [Nat.mul_comm] at hclock)
    have hyear : ((dateOf time.localNanos).year.toNat : Int) = (dateOf time.localNanos).year :=
      Int.toNat_of_nonneg hlow
    have hread : ∀ rest, takeNumber? 4 (padded 4 (dateOf time.localNanos).year.toNat ++ rest) =
        some ((dateOf time.localNanos).year.toNat, rest) :=
      fun rest ↦ takeNumber?_padded (by decide) (by omega) rest
    have hfraction := takeFraction?_writeFraction
      (Nat.mod_lt (timeOfDay time.localNanos) (by decide : 0 < nanosPerSecond))
      (fun c hc ↦ (head?_writeOffset time.offset c hc).1)
      (fun c hc ↦ (head?_writeOffset time.offset c hc).2)
    have hhour : timeOfDay time.localNanos / nanosPerSecond / 3600 < 100 := by omega
    have hminute : timeOfDay time.localNanos / nanosPerSecond / 60 % 60 < 100 := by omega
    have hsecond : timeOfDay time.localNanos / nanosPerSecond % 60 < 100 := by omega
    have hoffset := takeOffset?_writeOffset ⟨hwhole, hwithin⟩
    -- The text is read in the parts in which it was written.
    rw [parse?, String.toList_ofList]
    simp only [List.append_assoc, List.cons_append]
    unfold parseChars?
    refine Option.bind_eq_some_iff.mpr ⟨_, hread _, ?_⟩
    refine Option.bind_eq_some_iff.mpr ⟨_, takeMark?_cons '-' _, ?_⟩
    refine Option.bind_eq_some_iff.mpr ⟨_, takeNumber?_two hmonth _, ?_⟩
    refine Option.bind_eq_some_iff.mpr ⟨_, takeMark?_cons '-' _, ?_⟩
    refine Option.bind_eq_some_iff.mpr ⟨_, takeNumber?_two hday _, ?_⟩
    refine Option.bind_eq_some_iff.mpr ⟨_, takeSeparator?_cons (by decide) _, ?_⟩
    refine Option.bind_eq_some_iff.mpr ⟨_, takeNumber?_two hhour _, ?_⟩
    refine Option.bind_eq_some_iff.mpr ⟨_, takeMark?_cons ':' _, ?_⟩
    refine Option.bind_eq_some_iff.mpr ⟨_, takeNumber?_two hminute _, ?_⟩
    refine Option.bind_eq_some_iff.mpr ⟨_, takeMark?_cons ':' _, ?_⟩
    refine Option.bind_eq_some_iff.mpr ⟨_, takeNumber?_two hsecond _, ?_⟩
    refine Option.bind_eq_some_iff.mpr ⟨_, hfraction, ?_⟩
    refine Option.bind_eq_some_iff.mpr ⟨_, hoffset, ?_⟩
    rw [hyear]
    exact ofParts?_parts time

end ResourceLookup.Timestamp
