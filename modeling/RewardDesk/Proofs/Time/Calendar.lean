import RewardDesk.Time.Calendar

/-!
# Days and dates

    day number ──ofDayNumber──▶ date ──dayNumber──▶ day number

Every day has a date of the calendar (`Date.isValid_ofDayNumber`), and the date leads back to the
day (`Date.dayNumber_ofDayNumber`). The year of a day is the one whose days it lies among
(`Date.yearOf_spec`), and within the year the months are passed one after the other
(`Date.monthAndDay_spec`).
-/

namespace RewardDesk.Date

/-! ## Years -/

/-- The days of a whole year. -/
theorem daysBeforeYear_succ (year : Int) :
    daysBeforeYear (year + 1) = daysBeforeYear year + daysBeforeMonth year 13 := by
  have hmonths : daysBeforeMonth year 13 = if isLeapYear year then 366 else 365 := by
    by_cases h : isLeapYear year
    · simp [daysBeforeMonth, monthLength, h]
    · simp [daysBeforeMonth, monthLength, h]
  rw [hmonths]
  simp only [daysBeforeYear, isLeapYear, Bool.and_eq_true, Bool.or_eq_true, decide_eq_true_eq]
  split
  · omega
  · omega

/-- A day lies in the year that is found for it. -/
theorem yearOf_spec (days : Int) :
    daysBeforeYear (yearOf days) ≤ days ∧ days < daysBeforeYear (yearOf days + 1) := by
  have hguess : 146097 * (days * 400 / 146097) ≤ days * 400 ∧
      days * 400 < 146097 * (days * 400 / 146097) + 146097 := by omega
  simp only [yearOf]
  generalize days * 400 / 146097 = y at hguess
  -- The estimate is at most one year off.
  have hlow : daysBeforeYear y ≤ days := by
    simp only [daysBeforeYear]
    omega
  have hhigh : days < daysBeforeYear (y + 1 + 1 + 1) := by
    simp only [daysBeforeYear]
    omega
  split
  · rw [Int.add_sub_cancel]
    exact ⟨hlow, ‹_›⟩
  · split
    · exact ⟨‹_›, hhigh⟩
    · omega

/-! ## Months -/

theorem daysBeforeMonth_succ (year : Int) {month : Nat} (h : 1 ≤ month) :
    daysBeforeMonth year (month + 1) = daysBeforeMonth year month + monthLength year month := by
  obtain ⟨m, rfl⟩ := Nat.exists_eq_add_of_le' h
  rfl

/-- The month and day that are found lie in the calendar, and as far from the start of the year as
was asked for. -/
theorem monthAndDay_spec (year : Int) (fuel month days : Nat) (hmonth : 1 ≤ month)
    (hfuel : month + fuel = 12)
    (hdays : daysBeforeMonth year month + days < daysBeforeMonth year 13) :
    ∃ m d, monthAndDay year month fuel days = (m, d) ∧ (⟨year, m, d⟩ : Date).IsValid ∧
      daysBeforeMonth year m + d = daysBeforeMonth year month + days + 1 := by
  have hnext := daysBeforeMonth_succ year hmonth
  induction fuel generalizing month days with
  | zero =>
    obtain rfl : month = 12 := hfuel
    have hyear : daysBeforeMonth year 13 = daysBeforeMonth year 12 + monthLength year 12 := hnext
    have hday : days + 1 ≤ monthLength year 12 := by omega
    exact ⟨12, days + 1, rfl, ⟨hmonth, Nat.le_refl _, Nat.succ_pos _, hday⟩, rfl⟩
  | succ fuel ih =>
    by_cases hlast : days < monthLength year month
    · have htwelve : month ≤ 12 := by omega
      exact ⟨month, days + 1, if_pos hlast, ⟨hmonth, htwelve, Nat.succ_pos _, hlast⟩, rfl⟩
    · obtain ⟨m, d, heq, hvalid, hsum⟩ := ih (month + 1)
        (days - monthLength year month) (by omega) (by omega) (by omega)
        (daysBeforeMonth_succ year (by omega))
      exact ⟨m, d, (if_neg hlast).trans heq, hvalid, by omega⟩

/-! ## Dates -/

/-- The date of a day is the one with as many days before it. -/
theorem ofDayNumber_spec (n : Int) : (ofDayNumber n).IsValid ∧ (ofDayNumber n).dayNumber = n := by
  obtain ⟨hlow, hhigh⟩ := yearOf_spec (n + epochDays)
  rw [daysBeforeYear_succ] at hhigh
  generalize hyear : yearOf (n + epochDays) = year at hlow hhigh
  obtain ⟨days, hdays⟩ : ∃ days : Nat, n + epochDays - daysBeforeYear year = days :=
    Int.eq_ofNat_of_zero_le (by omega)
  have hfirst : daysBeforeMonth year 1 = 0 := rfl
  obtain ⟨m, d, heq, hvalid, hsum⟩ := monthAndDay_spec year 11 1 days (by decide)
    (by decide) (by omega)
  have hdate : ofDayNumber n = ⟨year, m, d⟩ := by
    simp only [ofDayNumber, hyear, hdays, Int.toNat_natCast, heq]
  rw [hdate]
  refine ⟨hvalid, ?_⟩
  show daysBeforeYear year + daysBeforeMonth year m + d - 1 - epochDays = n
  omega

theorem isValid_ofDayNumber (n : Int) : (ofDayNumber n).IsValid := (ofDayNumber_spec n).1

@[simp] theorem dayNumber_ofDayNumber (n : Int) : (ofDayNumber n).dayNumber = n :=
  (ofDayNumber_spec n).2

end RewardDesk.Date
