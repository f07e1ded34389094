/-!
# Calendar/Date — days as civil dates

Days are numbered from 1970-01-01, day 0.  `Date.ofDayNumber` finds the date of a day in the
proleptic Gregorian calendar, with a year 0.  The calendar repeats after 400 years, and a year is
counted from March, so that the leap day ends it.
-/

namespace Stockroom

/-- A day of the proleptic Gregorian calendar. -/
structure Date where
  year : Int
  month : Nat
  day : Nat
deriving DecidableEq, Repr

namespace Date

/-- Days in a cycle of 400 years. -/
def daysPerCycle : Int := 146097

/-- The day number of 0000-03-01, with its sign turned. -/
def cycleOffset : Int := 719468

/-- The year of a cycle that holds a day of the cycle. -/
def yearOfCycle (dayOfCycle : Nat) : Nat :=
  (dayOfCycle - dayOfCycle / 1460 + dayOfCycle / 36524 - dayOfCycle / 146096) / 365

/-- How many days of the cycle come before a year of it. -/
def daysBeforeYear (yearOfCycle : Nat) : Nat :=
  365 * yearOfCycle + yearOfCycle / 4 - yearOfCycle / 100

/-- The month, counted from March, that holds a day of such a year. -/
def monthFromMarch (dayOfYear : Nat) : Nat := (5 * dayOfYear + 2) / 153

/-- How many days of a year counted from March come before a month of it. -/
def daysBeforeMonth (monthFromMarch : Nat) : Nat := (153 * monthFromMarch + 2) / 5

/-- **The date of a day.** -/
def ofDayNumber (n : Int) : Date :=
  let shifted := n + cycleOffset
  let cycle := shifted / daysPerCycle
  let dayOfCycle := (shifted % daysPerCycle).toNat
  let year := yearOfCycle dayOfCycle
  let dayOfYear := dayOfCycle - daysBeforeYear year
  let march := monthFromMarch dayOfYear
  let month := if march < 10 then march + 3 else march - 9
  { year := cycle * 400 + year + (if month ≤ 2 then 1 else 0)
    month := month
    day := dayOfYear - daysBeforeMonth march + 1 }

example : ofDayNumber 0 = ⟨1970, 1, 1⟩ := by decide
example : ofDayNumber 19875 = ⟨2024, 6, 1⟩ := by decide
example : ofDayNumber 11016 = ⟨2000, 2, 29⟩ := by decide
example : ofDayNumber (-719529) = ⟨-1, 12, 31⟩ := by decide

end Date

end Stockroom
