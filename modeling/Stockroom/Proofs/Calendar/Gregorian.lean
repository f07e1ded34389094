import Mathlib.Tactic.IntervalCases
import Stockroom.Calendar.Date

/-!
# Proofs/Calendar/Gregorian — the date of a day is the one of the Gregorian calendar

`Date.ofDayNumber` finds a date by divisions.  Here is the calendar as it is told: which years are leap years
(`Date.IsLeap`), how long a month is (`Date.daysOfMonth`), and so which date comes after which (`Date.next`).
**The day after has the next date** (`Date.ofDayNumber_add_one`), over all days before and after 1970-01-01;
so the divisions count no day twice and leave none out.

The way back is `Date.dayNumber`: **a date tells its day** (`Date.dayNumber_ofDayNumber`), and a date that the
calendar has is told by its day (`Date.Proper.dayNumber_inj`).
-/

namespace Stockroom

namespace Date

/-! ## Years and months as they are counted -/

variable {d : Nat}

/-- A century of a cycle has one leap day less, and the last day of the cycle is one more. -/
theorem century_of_year {year : Nat} (hd : d < 146097)
    (hleast : 365 * year ≤ d - d / 1460 + d / 36524 - d / 146096)
    (hmost : d - d / 1460 + d / 36524 - d / 146096 ≤ 365 * year + 364) :
    year / 100 + d / 146096 = d / 36524 := by
  obtain hc | hc | hc | hc | hc : d / 36524 = 0 ∨ d / 36524 = 1 ∨ d / 36524 = 2 ∨
    d / 36524 = 3 ∨ d = 146096 := by omega
  all_goals omega

/-- **The year of a day of the cycle** has begun by that day, and is not over. -/
theorem daysBeforeYear_yearOfCycle (hd : d < 146097) : yearOfCycle d ≤ 399 ∧
    daysBeforeYear (yearOfCycle d) ≤ d ∧
    d < daysBeforeYear (yearOfCycle d + 1) + (yearOfCycle d + 1) / 400 := by
  have hleast : 365 * yearOfCycle d ≤ d - d / 1460 + d / 36524 - d / 146096 := by
    unfold yearOfCycle
    omega
  have hmost : d - d / 1460 + d / 36524 - d / 146096 ≤ 365 * yearOfCycle d + 364 := by
    unfold yearOfCycle
    omega
  unfold daysBeforeYear
  generalize yearOfCycle d = year at *
  have hcentury := century_of_year hd hleast hmost
  have hleap : year / 4 ≤ d / 1460 ∧ d / 1460 ≤ year / 4 + 1 := by omega
  have hyear : year ≤ 399 := by omega
  refine ⟨hyear, by omega, ?_⟩
  -- The last year of a century ends with it; within a century every fourth year has a leap day.
  by_cases hlast : (year + 1) % 100 = 0
  · obtain rfl | rfl | rfl | rfl : year = 99 ∨ year = 199 ∨ year = 299 ∨ year = 399 := by omega
    all_goals omega
  · have hquarter : d / 1460 ≤ (year + 1) / 4 := by omega
    have hinside : d < 146096 := Nat.lt_of_le_of_ne (by omega) (by rintro rfl; omega)
    have hsame : (year + 1) / 100 = d / 36524 := by omega
    omega

/-- No year has more than 366 days. -/
theorem daysBeforeYear_succ_le {year : Nat} (h : year ≤ 399) :
    daysBeforeYear (year + 1) + (year + 1) / 400 ≤ daysBeforeYear year + 366 := by
  unfold daysBeforeYear
  by_cases hlast : (year + 1) % 100 = 0
  · obtain rfl | rfl | rfl | rfl : year = 99 ∨ year = 199 ∨ year = 299 ∨ year = 399 := by omega
    all_goals omega
  · omega

/-- **The month of a day of the year** has begun by that day, and is not over. -/
theorem daysBeforeMonth_monthFromMarch (hd : d ≤ 365) : monthFromMarch d ≤ 11 ∧
    daysBeforeMonth (monthFromMarch d) ≤ d ∧ d < daysBeforeMonth (monthFromMarch d + 1) := by
  unfold daysBeforeMonth monthFromMarch
  omega

/-! ## The day of a date -/

/-- The month of a date, counted from March. -/
def march (date : Date) : Nat := if date.month ≤ 2 then date.month + 9 else date.month - 3

/-- The year of a date, counted from March. -/
def marchYear (date : Date) : Int := date.year - if date.month ≤ 2 then 1 else 0

/-- The number of the day of a date. -/
def dayNumber (date : Date) : Int :=
  date.marchYear / 400 * daysPerCycle + daysBeforeYear (date.marchYear % 400).toNat +
    daysBeforeMonth date.march + (date.day - 1) - cycleOffset

/-- How many days lie between the first of March in the year 0 and in a year. -/
def daysToYear (year : Int) : Int := 365 * year + year / 4 - year / 100 + year / 400

theorem dayNumber_eq (date : Date) : date.dayNumber =
    daysToYear date.marchYear + daysBeforeMonth date.march + (date.day - 1) - cycleOffset := by
  unfold dayNumber daysToYear daysPerCycle daysBeforeYear
  omega

theorem daysToYear_cycle (cycle : Int) {year : Nat} (h : year ≤ 399) :
    daysToYear (cycle * 400 + year) = cycle * daysPerCycle + daysBeforeYear year := by
  unfold daysToYear daysPerCycle daysBeforeYear
  omega

/-- What `ofDayNumber` finds, with its year, month and day by name: the year has begun by that day, and so has
the month, and neither is over. -/
theorem ofDayNumber_spec (n : Int) : ∃ (year : Int) (month day : Nat), month ≤ 11 ∧
    n + cycleOffset = daysToYear year + daysBeforeMonth month + day ∧
    daysBeforeMonth month + day < daysBeforeMonth (month + 1) ∧
    n + cycleOffset < daysToYear (year + 1) ∧
    (ofDayNumber n).marchYear = year ∧ (ofDayNumber n).march = month ∧
    (ofDayNumber n).day = day + 1 ∧ 1 ≤ (ofDayNumber n).month ∧ (ofDayNumber n).month ≤ 12 := by
  obtain ⟨d, hd⟩ := Int.eq_ofNat_of_zero_le
    (Int.emod_nonneg (n + cycleOffset) (b := daysPerCycle) (by decide))
  have hlt : d < 146097 := by
    have := Int.emod_lt_of_pos (n + cycleOffset) (b := daysPerCycle) (by decide)
    unfold daysPerCycle at *
    omega
  have hsplit := Int.mul_ediv_add_emod (n + cycleOffset) daysPerCycle
  rw [hd, Int.mul_comm] at hsplit
  obtain ⟨hyear, hbegun, hover⟩ := daysBeforeYear_yearOfCycle hlt
  have hlength := daysBeforeYear_succ_le hyear
  obtain ⟨hmonth, hbegun', hover'⟩ := daysBeforeMonth_monthFromMarch
    (d := d - daysBeforeYear (yearOfCycle d)) (by omega)
  have hstart := daysToYear_cycle ((n + cycleOffset) / daysPerCycle) hyear
  have hend : daysToYear ((n + cycleOffset) / daysPerCycle * 400 + yearOfCycle d + 1) =
      (n + cycleOffset) / daysPerCycle * daysPerCycle + daysBeforeYear (yearOfCycle d + 1) +
        ((yearOfCycle d + 1) / 400 : Nat) := by
    unfold daysToYear daysPerCycle daysBeforeYear
    omega
  refine ⟨(n + cycleOffset) / daysPerCycle * 400 + yearOfCycle d,
    monthFromMarch (d - daysBeforeYear (yearOfCycle d)), d - daysBeforeYear (yearOfCycle d) -
      daysBeforeMonth (monthFromMarch (d - daysBeforeYear (yearOfCycle d))),
    hmonth, by omega, by omega, by omega, ?_, ?_, ?_, ?_⟩
  all_goals simp only [marchYear, march, ofDayNumber, hd, Int.toNat_natCast]
  · omega
  · split <;> split <;> omega
  · split <;> omega

/-- **A date tells its day.** -/
theorem dayNumber_ofDayNumber (n : Int) : (ofDayNumber n).dayNumber = n := by
  obtain ⟨year, month, day, -, hn, -, -, hmarchYear, hmarch, hday, -⟩ := ofDayNumber_spec n
  rw [dayNumber_eq, hmarchYear, hmarch, hday]
  omega

/-! ## The calendar -/

/-- **A leap year.** -/
def IsLeap (year : Int) : Prop := year % 4 = 0 ∧ (year % 100 ≠ 0 ∨ year % 400 = 0)

instance (year : Int) : Decidable (IsLeap year) := inferInstanceAs (Decidable (_ ∧ _))

/-- How many days a month of a year has. -/
def daysOfMonth (year : Int) (month : Nat) : Nat :=
  if month = 2 then if IsLeap year then 29 else 28
  else if month ∈ [4, 6, 9, 11] then 30 else 31

/-- **A date that the calendar has.** -/
structure Proper (date : Date) : Prop where
  month_pos : 1 ≤ date.month
  month_le : date.month ≤ 12
  day_pos : 1 ≤ date.day
  day_le : date.day ≤ daysOfMonth date.year date.month

/-- **The date after a date.** -/
def next (date : Date) : Date :=
  if date.day < daysOfMonth date.year date.month then { date with day := date.day + 1 }
  else if date.month < 12 then ⟨date.year, date.month + 1, 1⟩
  else ⟨date.year + 1, 1, 1⟩

variable {date date' : Date}

theorem daysOfMonth_bounds (year : Int) (month : Nat) :
    1 ≤ daysOfMonth year month ∧ daysOfMonth year month ≤ 31 := by
  unfold daysOfMonth
  split
  · split <;> decide
  · split <;> decide

/-- February ends the year that is counted from March, and is as long as what is left of it. -/
theorem daysOfMonth_february (year : Int) :
    (daysOfMonth year 2 : Int) = daysToYear year - daysToYear (year - 1) - 337 := by
  unfold daysToYear
  by_cases h : IsLeap year
  · simp only [daysOfMonth, h, if_true]
    unfold IsLeap at h
    omega
  · simp only [daysOfMonth, h, if_true, if_false]
    unfold IsLeap at h
    omega

/-- Any other month lasts until the next one begins. -/
theorem daysOfMonth_of_ne (hpos : 1 ≤ date.month) (hle : date.month ≤ 12) (hne : date.month ≠ 2) :
    daysBeforeMonth date.march + daysOfMonth date.year date.month = daysBeforeMonth (date.march + 1) := by
  obtain ⟨year, month, day⟩ := date
  dsimp only at *
  interval_cases month <;> simp_all [march, daysOfMonth, daysBeforeMonth]

theorem daysToYear_mono {year year' : Int} (h : year ≤ year') : daysToYear year ≤ daysToYear year' := by
  unfold daysToYear
  omega

/-- **No day comes twice**: a year, a month counted from March and a day tell where they are from. -/
theorem day_unique {year year' : Int} {month month' day day' : Nat}
    (heq : daysToYear year + daysBeforeMonth month + day =
      daysToYear year' + daysBeforeMonth month' + day')
    (hmonth : daysBeforeMonth month + day < daysBeforeMonth (month + 1))
    (hmonth' : daysBeforeMonth month' + day' < daysBeforeMonth (month' + 1))
    (hyear : daysToYear year + daysBeforeMonth month + day < daysToYear (year + 1))
    (hyear' : daysToYear year' + daysBeforeMonth month' + day' < daysToYear (year' + 1)) :
    year = year' ∧ month = month' ∧ day = day' := by
  have hsame : year = year' := by
    rcases Int.lt_trichotomy year year' with hlt | hsame | hlt
    · have := daysToYear_mono (Int.add_one_le_of_lt hlt)
      omega
    · exact hsame
    · have := daysToYear_mono (Int.add_one_le_of_lt hlt)
      omega
  subst hsame
  have hsame : month = month' := by
    unfold daysBeforeMonth at *
    omega
  subst hsame
  exact ⟨rfl, rfl, by omega⟩

namespace Proper

/-- A date that the calendar has lies in its month. -/
theorem in_month (h : date.Proper) :
    daysBeforeMonth date.march + (date.day - 1) < daysBeforeMonth (date.march + 1) := by
  obtain ⟨hmonth, hmonth', hday, hday'⟩ := h
  by_cases hfebruary : date.month = 2
  · have hlength : daysOfMonth date.year date.month ≤ 29 := by
      rw [hfebruary, daysOfMonth, if_pos rfl]
      split <;> decide
    have hmarch : date.march = 11 := by rw [march, hfebruary]; rfl
    rw [hmarch]
    unfold daysBeforeMonth
    omega
  · have := daysOfMonth_of_ne hmonth hmonth' hfebruary
    omega

/-- And in its year. -/
theorem in_year (h : date.Proper) : daysToYear date.marchYear + daysBeforeMonth date.march +
    (date.day - 1 : Nat) < daysToYear (date.marchYear + 1) := by
  have hinside := h.in_month
  obtain ⟨hmonth, hmonth', hday, hday'⟩ := h
  by_cases hfebruary : date.month = 2
  · have hlength := daysOfMonth_february date.year
    have hmarch : date.march = 11 := by rw [march, hfebruary]; rfl
    have hyear : date.marchYear = date.year - 1 := by rw [marchYear, hfebruary]; rfl
    rw [hfebruary] at hday'
    rw [hyear, hmarch, Int.sub_add_cancel]
    unfold daysBeforeMonth
    omega
  · have hmarch : date.march ≤ 10 := by unfold march; split <;> omega
    unfold daysBeforeMonth at *
    unfold daysToYear
    omega

/-- **A date that the calendar has is told by its day.** -/
theorem dayNumber_inj (h : date.Proper) (h' : date'.Proper) (heq : date.dayNumber = date'.dayNumber) :
    date = date' := by
  have hday := h.day_pos
  have hday' := h'.day_pos
  rw [dayNumber_eq, dayNumber_eq] at heq
  obtain ⟨hyear, hmonth, hsame⟩ :=
    day_unique (by omega) h.in_month h'.in_month h.in_year h'.in_year
  obtain ⟨hpos, hle, -, -⟩ := h
  obtain ⟨hpos', hle', -, -⟩ := h'
  have hmonth : date.month = date'.month := by
    unfold march at hmonth
    split at hmonth <;> split at hmonth <;> omega
  have hyear : date.year = date'.year := by
    unfold marchYear at hyear
    rw [hmonth] at hyear
    omega
  obtain ⟨year, month, day⟩ := date
  obtain ⟨year', month', day'⟩ := date'
  rw [Date.mk.injEq]
  exact ⟨hyear, hmonth, by dsimp only at *; omega⟩

/-- **The date after it** is one that the calendar has. -/
theorem next (h : date.Proper) : date.next.Proper := by
  obtain ⟨hmonth, hmonth', hday, hday'⟩ := h
  unfold Date.next
  split
  · exact ⟨hmonth, hmonth', Nat.succ_pos _, by assumption⟩
  · split
    · exact ⟨Nat.succ_pos _, by assumption, Nat.le_refl _, (daysOfMonth_bounds _ _).1⟩
    · exact ⟨Nat.le_refl _, Nat.le_add_left 1 11, Nat.le_refl _, (daysOfMonth_bounds _ _).1⟩

/-- **And it is one day later.** -/
theorem dayNumber_next (h : date.Proper) : date.next.dayNumber = date.dayNumber + 1 := by
  obtain ⟨hmonth, hmonth', hday, hday'⟩ := h
  rw [dayNumber_eq, dayNumber_eq]
  by_cases hlast : date.day < daysOfMonth date.year date.month
  · rw [Date.next, if_pos hlast]
    simp only [marchYear, march]
    omega
  · by_cases hfebruary : date.month = 2
    · -- After February the year that is counted from March is over.
      have hlength := daysOfMonth_february date.year
      have hnext : date.next.marchYear = date.year ∧ date.next.march = 0 ∧ date.next.day = 1 := by
        rw [Date.next, if_neg hlast, hfebruary]
        exact ⟨Int.sub_zero _, rfl, rfl⟩
      have hyear : date.marchYear = date.year - 1 := by rw [marchYear, hfebruary]; rfl
      have hmarch : date.march = 11 := by rw [march, hfebruary]; rfl
      rw [hfebruary] at hlast hday'
      rw [hnext.1, hnext.2.1, hnext.2.2, hyear, hmarch]
      unfold daysBeforeMonth
      omega
    · have hlength := daysOfMonth_of_ne hmonth hmonth' hfebruary
      have hnext : date.next.marchYear = date.marchYear ∧ date.next.march = date.march + 1 ∧
          date.next.day = 1 := by
        rw [Date.next, if_neg hlast]
        unfold marchYear march
        split <;> dsimp only <;> refine ⟨?_, ?_, rfl⟩ <;> split <;> split <;> omega
      rw [hnext.1, hnext.2.1, hnext.2.2]
      omega

end Proper

/-- **What is found is a date that the calendar has.** -/
theorem proper_ofDayNumber (n : Int) : (ofDayNumber n).Proper := by
  obtain ⟨year, month, day, hmonth, hn, hinside, hbefore, hmarchYear, hmarch, hday, hpos, hle⟩ :=
    ofDayNumber_spec n
  refine ⟨hpos, hle, by omega, ?_⟩
  by_cases hfebruary : (ofDayNumber n).month = 2
  · have hlength := daysOfMonth_february (ofDayNumber n).year
    have hlast : month = 11 := by rw [← hmarch, march, hfebruary]; rfl
    have hyear : year = (ofDayNumber n).year - 1 := by rw [← hmarchYear, marchYear, hfebruary]; rfl
    rw [hfebruary]
    subst hlast hyear
    rw [Int.sub_add_cancel] at hbefore
    unfold daysBeforeMonth at *
    omega
  · have := daysOfMonth_of_ne hpos hle hfebruary
    rw [hmarch] at this
    omega

/-- **The day after has the next date.** -/
theorem ofDayNumber_add_one (n : Int) : ofDayNumber (n + 1) = (ofDayNumber n).next := by
  refine (proper_ofDayNumber _).dayNumber_inj (proper_ofDayNumber n).next ?_
  rw [(proper_ofDayNumber n).dayNumber_next, dayNumber_ofDayNumber, dayNumber_ofDayNumber]

end Date

end Stockroom
