import ResourceLookup.Time.Calendar

/-!
# Dates and day numbers

The date of a day number exists in the calendar (`CivilDate.valid_ofDayNumber`) and has that number
(`CivilDate.dayNumber_ofDayNumber`). Two searches find it. The year is found because years follow
each other without a gap (`firstDayOfYear_succ`, `yearOfDay_spec`); then the months of the year are
gone through, which together have the days of the year (`monthOfDay_spec`, `daysBeforeMonth_succ`).
-/

set_option autoImplicit false
set_option relaxedAutoImplicit false

namespace ResourceLookup.Calendar

/-! ### Years -/

/-- The first day of a year in terms of division that `omega` knows. -/
theorem firstDayOfYear_eq (year : Int) :
    firstDayOfYear year =
      365 * year + (year - 1) / 4 - (year - 1) / 100 + (year - 1) / 400 + 1 := by
  simp only [firstDayOfYear]
  rw [Int.fdiv_eq_ediv_of_nonneg _ (by decide), Int.fdiv_eq_ediv_of_nonneg _ (by decide),
    Int.fdiv_eq_ediv_of_nonneg _ (by decide)]

/-- A year begins where the year before it ends. -/
theorem firstDayOfYear_succ (year : Int) :
    firstDayOfYear (year + 1) = firstDayOfYear year + daysInYear year := by
  rw [firstDayOfYear_eq, firstDayOfYear_eq, daysInYear]
  by_cases hleap : isLeapYear year = true
  · rw [if_pos hleap]
    simp only [isLeapYear, Bool.and_eq_true, Bool.or_eq_true, beq_iff_eq, bne_iff_ne] at hleap
    omega
  · rw [if_neg hleap]
    simp only [isLeapYear, Bool.and_eq_true, Bool.or_eq_true, beq_iff_eq, bne_iff_ne] at hleap
    omega

/-- A day lies in the year that is found for it. -/
theorem yearOfDay_spec (day : Int) :
    firstDayOfYear (yearOfDay day) ≤ day ∧ day < firstDayOfYear (yearOfDay day + 1) := by
  have hbelow : firstDayOfYear ((day * 400).fdiv 146097 - 1) ≤ day := by
    rw [firstDayOfYear_eq, Int.fdiv_eq_ediv_of_nonneg _ (by decide)]
    omega
  have habove : day < firstDayOfYear ((day * 400).fdiv 146097 + 2) := by
    rw [firstDayOfYear_eq, Int.fdiv_eq_ediv_of_nonneg _ (by decide)]
    omega
  simp only [yearOfDay]
  split
  · next hlate => exact ⟨hlate, by rwa [Int.add_assoc]⟩
  · next hnotLate =>
    split
    · next hthere => exact ⟨hthere, Int.not_le.mp hnotLate⟩
    · next hnotThere => exact ⟨hbelow, by rw [Int.sub_add_cancel]; exact Int.not_le.mp hnotThere⟩

/-! ### Months -/

section Months

variable (year : Int)

/-- A month begins where the month before it ends. -/
theorem daysBeforeMonth_succ {month : Nat} (hmonth : 1 ≤ month) :
    daysBeforeMonth year (month + 1) = daysBeforeMonth year month + daysInMonth year month := by
  obtain ⟨before, rfl⟩ := Nat.exists_eq_add_of_le' hmonth
  simp only [daysBeforeMonth, Nat.add_sub_cancel, List.range_succ, List.foldl_append,
    List.foldl_cons, List.foldl_nil]

/-- Twelve months are a year. -/
theorem daysBeforeMonth_thirteen : daysBeforeMonth year 13 = daysInYear year := by
  unfold daysBeforeMonth daysInYear
  by_cases hleap : isLeapYear year = true
  · simp [List.range_succ, daysInMonth, hleap]
  · simp [List.range_succ, daysInMonth, hleap]

/-- The month and the day of the month that are found from a month on. Assumes: the day lies before
the end of the year. -/
theorem monthOfDay_spec {month rest steps : Nat} (hmonth : 1 ≤ month) (hsteps : month + steps = 12)
    (hrest : daysBeforeMonth year month + rest < daysInYear year) :
    let (found, day) := monthOfDay year month rest steps
    1 ≤ found ∧ found ≤ 12 ∧ 1 ≤ day ∧ day ≤ daysInMonth year found ∧
      daysBeforeMonth year found + day = daysBeforeMonth year month + rest + 1 := by
  induction steps generalizing month rest with
  | zero =>
    obtain rfl : month = 12 := hsteps
    have hend := daysBeforeMonth_succ year hmonth
    rw [daysBeforeMonth_thirteen] at hend
    refine ⟨by omega, by omega, by omega, by omega, ?_⟩
    omega
  | succ steps ih =>
    have hnext := daysBeforeMonth_succ year hmonth
    unfold monthOfDay
    by_cases hlater : daysInMonth year month ≤ rest
    · rw [if_pos hlater]
      have hfound := ih (by omega : 1 ≤ month + 1) (by omega)
        (by omega : daysBeforeMonth year (month + 1) + (rest - daysInMonth year month) < _)
      generalize monthOfDay year (month + 1) (rest - daysInMonth year month) steps = found at hfound
      obtain ⟨hlow, hhigh, hday, hwithin, hsum⟩ := hfound
      exact ⟨hlow, hhigh, hday, hwithin, by omega⟩
    · rw [if_neg hlater]
      refine ⟨by omega, by omega, by omega, by omega, ?_⟩
      omega

end Months

/-! ### Dates -/

namespace CivilDate

theorem ofDayNumber_eq {day year : Int} (hyear : yearOfDay day = year) :
    ofDayNumber day =
      ⟨year, (monthOfDay year 1 (day - firstDayOfYear year).toNat 11).1,
        (monthOfDay year 1 (day - firstDayOfYear year).toNat 11).2⟩ := by
  rw [← hyear]
  rfl

/-- The parts of the date of a day number. -/
theorem ofDayNumber_spec (day : Int) :
    (1 ≤ (ofDayNumber day).month ∧ (ofDayNumber day).month ≤ 12 ∧ 1 ≤ (ofDayNumber day).day ∧
      (ofDayNumber day).day ≤ daysInMonth (ofDayNumber day).year (ofDayNumber day).month) ∧
    (ofDayNumber day).dayNumber = day := by
  obtain ⟨hbegun, hnotOver⟩ := yearOfDay_spec day
  rw [firstDayOfYear_succ] at hnotOver
  generalize hyear : yearOfDay day = year at hbegun hnotOver
  have hnone : daysBeforeMonth year 1 = 0 := rfl
  have hfound := monthOfDay_spec year (Nat.le_refl 1) (rfl : 1 + 11 = 12)
    (by omega : _ + (day - firstDayOfYear year).toNat < _)
  rw [ofDayNumber_eq hyear]
  generalize monthOfDay year 1 (day - firstDayOfYear year).toNat 11 = found at hfound ⊢
  obtain ⟨hlow, hhigh, hday, hwithin, hsum⟩ := hfound
  refine ⟨⟨hlow, hhigh, hday, hwithin⟩, ?_⟩
  show firstDayOfYear year + daysBeforeMonth year found.1 + found.2 - 1 = day
  omega

/-- The date of a day number has that number. -/
theorem dayNumber_ofDayNumber (day : Int) : (ofDayNumber day).dayNumber = day :=
  (ofDayNumber_spec day).2

/-- The date of a day number exists. -/
theorem valid_ofDayNumber (day : Int) : (ofDayNumber day).valid = true := by
  obtain ⟨⟨hlow, hhigh, hday, hwithin⟩, -⟩ := ofDayNumber_spec day
  simp only [valid, Bool.and_eq_true, decide_eq_true_eq]
  exact ⟨⟨⟨hlow, hhigh⟩, hday⟩, hwithin⟩

/-- The parts of a date that exists have two digits. -/
theorem lt_of_valid {date : CivilDate} (hvalid : date.valid = true) :
    date.month < 100 ∧ date.day < 100 := by
  simp only [valid, Bool.and_eq_true, decide_eq_true_eq] at hvalid
  have hdays : daysInMonth date.year date.month ≤ 31 := by
    unfold daysInMonth
    split <;> first | omega | (split <;> omega)
  omega

end CivilDate

end ResourceLookup.Calendar
