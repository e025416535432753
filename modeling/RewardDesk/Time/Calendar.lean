/-!
# The calendar

Days are numbered from 1 January 1970. A date of the proleptic Gregorian calendar is turned into its
number by `Date.dayNumber`, and `Date.ofDayNumber` goes back. Years before the year 0 are negative.
-/

namespace RewardDesk

/-- A date; its month and day are meant to lie in the calendar, see `Date.IsValid`. -/
structure Date where
  year : Int
  month : Nat
  day : Nat
  deriving DecidableEq, Repr

namespace Date

/-- Does the year have a 29 February? -/
def isLeapYear (year : Int) : Bool := year % 4 = 0 && (year % 100 ≠ 0 || year % 400 = 0)

/-- The number of days in a month. -/
def monthLength (year : Int) (month : Nat) : Nat :=
  if month = 2 then (if isLeapYear year then 29 else 28)
  else if month = 4 ∨ month = 6 ∨ month = 9 ∨ month = 11 then 30
  else 31

/-- The days of a year in front of a month. -/
def daysBeforeMonth (year : Int) : Nat → Nat
  | 0 => 0
  | 1 => 0
  | month + 2 => daysBeforeMonth year (month + 1) + monthLength year (month + 1)

/-- The number of 1 January of a year, with 1 January of the year 1 as day zero. -/
def daysBeforeYear (year : Int) : Int :=
  let y := year - 1
  365 * y + y / 4 - y / 100 + y / 400

/-- From 1 January of the year 1 to 1 January 1970. -/
def epochDays : Int := 719162

/-- Month and day exist in the calendar. -/
def IsValid (d : Date) : Prop :=
  1 ≤ d.month ∧ d.month ≤ 12 ∧ 1 ≤ d.day ∧ d.day ≤ monthLength d.year d.month

instance (d : Date) : Decidable d.IsValid := by unfold IsValid; infer_instance

/-- The number of a date. -/
def dayNumber (d : Date) : Int :=
  daysBeforeYear d.year + daysBeforeMonth d.year d.month + d.day - 1 - epochDays

/-- The year of a day, counted from 1 January of the year 1: an estimate by the mean length of
years, put right by one year at most. -/
def yearOf (days : Int) : Int :=
  let guess := days * 400 / 146097 + 1
  if days < daysBeforeYear guess then guess - 1
  else if daysBeforeYear (guess + 1) ≤ days then guess + 1
  else guess

/-- The month and day at a distance from the start of `month`; `fuel` is the number of months
that may still follow. -/
def monthAndDay (year : Int) (month : Nat) : (fuel : Nat) → (days : Nat) → Nat × Nat
  | 0, days => (month, days + 1)
  | fuel + 1, days =>
    if days < monthLength year month then (month, days + 1)
    else monthAndDay year (month + 1) fuel (days - monthLength year month)

/-- The date with a given number. -/
def ofDayNumber (n : Int) : Date :=
  let days := n + epochDays
  let year := yearOf days
  let (month, day) := monthAndDay year 1 11 (days - daysBeforeYear year).toNat
  ⟨year, month, day⟩

end Date
end RewardDesk
