import RewardDesk.Time.Calendar

/-!
# Instants

An `Instant` is a moment of universal time to the nanosecond. The second 60 of a minute is the
second 59 with a thousand million nanoseconds or more, so instants are ordered by second and
nanosecond.

Two forms are written: `iso8601` for data and `display` for messages. Both show as few of 0, 3, 6
and 9 digits of the second's fraction as lose nothing, and sign a year outside 0 to 9999.
-/

namespace RewardDesk

/-- A moment of universal time: whole seconds from the start of 1970, and nanoseconds. -/
structure Instant where
  second : Int
  nano : Nat
  deriving DecidableEq, Repr, Inhabited

namespace Instant

/-- The order of time. -/
instance : Ord Instant where
  compare a b := (compare a.second b.second).then (compare a.nano b.nano)

instance : LT Instant := ltOfOrd
instance : LE Instant := leOfOrd
instance : DecidableLT Instant := fun a b => inferInstanceAs (Decidable (compare a b = .lt))
instance : DecidableLE Instant := fun a b => inferInstanceAs (Decidable ((compare a b).isLE))

/-- The years that instants reach. -/
def firstYear : Int := -262143
def lastYear : Int := 262142

/-- The date of an instant. -/
def date (t : Instant) : Date := Date.ofDayNumber (t.second / 86400)

/-- The instant of a date, time of day and nanosecond. -/
def ofDate (d : Date) (hour minute second nano : Nat) : Instant :=
  ⟨d.dayNumber * 86400 + (hour * 3600 + minute * 60 + second : Nat), nano⟩

/-! ### Written forms -/

/-- A number in decimal, filled up with zeros at the front. -/
def padded (width n : Nat) : List Char :=
  let digits := Nat.toDigits 10 n
  List.replicate (width - digits.length) '0' ++ digits

/-- The year with four digits, or with its sign and at least four digits. -/
def yearText (year : Int) : List Char :=
  if 0 ≤ year ∧ year ≤ 9999 then padded 4 year.toNat
  else (if year < 0 then '-' else '+') :: padded 4 year.natAbs

/-- The fraction of a second, with the fewest groups of three digits. -/
def fractionText (nano : Nat) : List Char :=
  if nano = 0 then []
  else if nano % 1000000 = 0 then '.' :: padded 3 (nano / 1000000)
  else if nano % 1000 = 0 then '.' :: padded 6 (nano / 1000)
  else '.' :: padded 9 nano

/-- The date, year first. -/
def dateText (t : Instant) : List Char :=
  let d := t.date
  yearText d.year ++ '-' :: (padded 2 d.month ++ '-' :: padded 2 d.day)

/-- The time of day, with the fraction of the second. -/
def clockText (t : Instant) : List Char :=
  let s := (t.second % 86400).toNat
  let leap := 1000000000 ≤ t.nano
  padded 2 (s / 3600) ++ ':' :: (padded 2 (s / 60 % 60) ++
    ':' :: (padded 2 (if leap then s % 60 + 1 else s % 60) ++
      fractionText (if leap then t.nano - 1000000000 else t.nano)))

/-- The form of data: `2026-01-31T08:00:00.250Z`. -/
def iso8601 (t : Instant) : String := String.ofList (t.dateText ++ 'T' :: (t.clockText ++ ['Z']))

/-- The form of messages: `2026-01-31 08:00:00.250 UTC`. -/
def display (t : Instant) : String :=
  String.ofList (t.dateText ++ ' ' :: t.clockText) ++ " UTC"

end Instant
end RewardDesk
