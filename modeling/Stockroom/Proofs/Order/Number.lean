import Mathlib.Algebra.Ring.Nat
import Stockroom.Order.Draft
import Stockroom.Proofs.Calendar.Gregorian

/-!
# Proofs/Order/Number — what an order number tells

A date tells its day (`Date.dayNumber_ofDayNumber`), numerals of a fixed width can be read back, and so a
compact stamp tells its second (`Instant.unixSeconds_of_compactChars`).  **Two orders have the same number
exactly if they were created in the same second, with the same last three digits of the nanosecond**
(`orderNumber_eq_iff`), and seconds are counted along the calendar as it is told (`Date.next`).
-/

namespace Stockroom

/-! ## Numerals -/

namespace Numeral

variable {width m n : Nat}

/-- **A numeral of a width can be read back.** -/
theorem paddedChars_inj (h : paddedChars width m = paddedChars width n) : m = n := by
  have hread (n : Nat) : Nat.ofDigitChars 10 (paddedChars width n) 0 = n := by
    rw [paddedChars, Nat.ofDigitChars_append, Nat.ofDigitChars_replicate_zero, Nat.mul_zero,
      Nat.ofDigitChars_toDigits (by decide) (by decide)]
  rw [← hread m, h, hread]

/-- Numbers that fit fill the width exactly. -/
theorem length_paddedChars (hwidth : 0 < width) (h : n < 10 ^ width) :
    (paddedChars width n).length = width := by
  have hlength := (Nat.length_toDigits_le_iff (b := 10) (by decide) hwidth).mpr h
  rw [paddedChars, List.length_append, List.length_replicate]
  omega

/-- A numeral holds nothing but digits. -/
theorem isDigit_of_mem_paddedChars {c : Char} (h : c ∈ paddedChars width n) : c.isDigit := by
  rcases List.mem_append.mp h with h | h
  · rw [List.eq_of_mem_replicate h]
    rfl
  · exact Nat.isDigit_of_mem_toDigits (by decide) (by decide) h

end Numeral

/-! ## Stamps -/

namespace Instant

open Numeral

/-- **A year can be read back**, with its sign. -/
theorem yearChars_inj {year year' : Int} (h : yearChars year = yearChars year') : year = year' := by
  -- A sign is no digit, so it cannot be mistaken for a part of a number.
  have hsigned {width : Nat} {sign : Char} {rest : List Char} {n : Nat} (hsign : ¬sign.isDigit) :
      paddedChars width n ≠ sign :: rest := fun heq =>
    hsign (isDigit_of_mem_paddedChars (by rw [heq]; exact List.mem_cons_self))
  unfold yearChars at h
  by_cases hy : 0 ≤ year ∧ year ≤ 9999 <;> by_cases hy' : 0 ≤ year' ∧ year' ≤ 9999
  · rw [if_pos hy, if_pos hy'] at h
    have := paddedChars_inj h
    omega
  · rw [if_pos hy, if_neg hy'] at h
    exact absurd h (hsigned (by split <;> decide))
  · rw [if_neg hy, if_pos hy'] at h
    exact absurd h.symm (hsigned (by split <;> decide))
  · rw [if_neg hy, if_neg hy'] at h
    obtain ⟨hsign, hrest⟩ := List.cons_eq_cons.mp h
    have hsame := paddedChars_inj hrest
    by_cases hneg : year < 0 <;> by_cases hneg' : year' < 0
    all_goals first | omega | simp [hneg, hneg'] at hsign

variable {a b : Instant}

theorem date_bounds (t : Instant) : t.date.month < 100 ∧ t.date.day < 100 := by
  obtain ⟨-, hmonth, -, hday⟩ := Date.proper_ofDayNumber t.dayNumber
  have hlength := (Date.daysOfMonth_bounds t.date.year t.date.month).2
  exact ⟨Nat.lt_of_le_of_lt hmonth (by decide),
    Nat.lt_of_le_of_lt (Nat.le_trans hday hlength) (by decide)⟩

theorem time_bounds (t : Instant) : t.hour < 100 ∧ t.minute < 100 ∧ t.second < 100 := by
  unfold hour minute second secondOfDay
  omega

/-- **A compact stamp tells its second.** -/
theorem unixSeconds_of_compactChars (h : a.compactChars = b.compactChars) :
    a.unixSeconds = b.unixSeconds := by
  obtain ⟨hmonth, hday⟩ := a.date_bounds
  obtain ⟨hmonth', hday'⟩ := b.date_bounds
  obtain ⟨hhour, hminute, hsecond⟩ := a.time_bounds
  obtain ⟨hhour', hminute', hsecond'⟩ := b.time_bounds
  -- From the end, each part has two digits, so the year is what is left in front.
  have hpart {n n' : Nat} {front front' : List Char} (hn : n < 100) (hn' : n' < 100)
      (heq : front ++ paddedChars 2 n = front' ++ paddedChars 2 n') : front = front' ∧ n = n' := by
    have hlength : (paddedChars 2 n).length = (paddedChars 2 n').length :=
      (length_paddedChars (by decide) hn).trans (length_paddedChars (by decide) hn').symm
    exact (List.append_inj' heq hlength).imp id paddedChars_inj
  obtain ⟨h, hsecond⟩ := hpart hsecond hsecond' h
  obtain ⟨h, hminute⟩ := hpart hminute hminute' h
  obtain ⟨h, hhour⟩ := hpart hhour hhour' h
  obtain ⟨h, hday⟩ := hpart hday hday' h
  obtain ⟨h, hmonth⟩ := hpart hmonth hmonth' h
  have hdate : a.date = b.date := by
    cases ha : a.date
    cases hb : b.date
    rw [ha, hb] at hmonth hday h
    rw [Date.mk.injEq]
    exact ⟨yearChars_inj h, hmonth, hday⟩
  have hdayNumber : a.dayNumber = b.dayNumber := by
    rw [← Date.dayNumber_ofDayNumber a.dayNumber, ← Date.dayNumber_ofDayNumber b.dayNumber]
    exact congrArg Date.dayNumber hdate
  unfold dayNumber at hdayNumber
  unfold hour minute second secondOfDay at *
  omega

/-- Whether two instants lie in the same second and agree in the last three digits of the nanosecond. -/
def SharesNumber (a b : Instant) : Prop :=
  a.unixSeconds = b.unixSeconds ∧ a.subsecond % 1000 = b.subsecond % 1000

instance (a b : Instant) : Decidable (a.SharesNumber b) :=
  inferInstanceAs (Decidable (_ ∧ _))

/-- **What is in a stamp is decided by the second.** -/
theorem compactChars_congr (h : a.unixSeconds = b.unixSeconds) : a.compactChars = b.compactChars := by
  simp only [compactChars, date, dayNumber, hour, minute, second, secondOfDay, h]

end Instant

/-! ## Numbers -/

/-- **Two instants give the same number** exactly if they lie in the same second and agree in the last
three digits of the nanosecond. -/
theorem orderNumber_eq_iff {a b : Instant} : orderNumber a = orderNumber b ↔ a.SharesNumber b := by
  have hlength (t : Instant) : (Numeral.paddedChars 3 (t.subsecond % 1000)).length = 3 :=
    Numeral.length_paddedChars (by decide) (Nat.mod_lt _ (by decide))
  constructor
  · intro h
    obtain ⟨hstamp, hdigits⟩ := List.append_inj' (String.ofList_injective h)
      ((hlength a).trans (hlength b).symm)
    exact ⟨Instant.unixSeconds_of_compactChars (List.append_cancel_left hstamp),
      Numeral.paddedChars_inj hdigits⟩
  · rintro ⟨hsecond, hdigits⟩
    delta orderNumber
    rw [Instant.compactChars_congr hsecond, hdigits]

/-- **When numbers collide**, in a calendar that begins its count on the first of January 1970 and goes from
each date to the next: two instants give the same number if and only if they lie in the same second and the
nanoseconds beyond it agree in the last three digits. -/
theorem orderNumber_collision :
    (Date.ofDayNumber 0 = ⟨1970, 1, 1⟩ ∧ ∀ n, Date.ofDayNumber (n + 1) = (Date.ofDayNumber n).next) ∧
      ∀ a b : Instant, orderNumber a = orderNumber b ↔
        a.nanos / 1000000000 = b.nanos / 1000000000 ∧
          a.nanos % 1000000000 % 1000 = b.nanos % 1000000000 % 1000 := by
  refine ⟨⟨by decide, Date.ofDayNumber_add_one⟩, fun a b => ?_⟩
  rw [orderNumber_eq_iff]
  refine and_congr Iff.rfl ?_
  unfold Instant.subsecond
  omega

end Stockroom
