import Stockroom.Proofs.Order.Amounts

/-!
# Proofs/Order/Reckoning — amounts that are worked out step by step

A `Money.Reckoning` makes amounts of numbers, adds them up and multiplies them, in any order and however often.
It has a result if and only if no number it begins with is negative and all its sums and products have 64 bits,
and then the result is that of the integers (`result_eq_ok_iff`).

A quantity may be negative, and nobody looks at its sign.  **No amount on the way is negative if and only if
none above zero is multiplied by a negative quantity** (`nonneg_iff_keepsSign`).  Nobody looks at the size of a
difference either: it is exact if it has 64 bits (`subtract_eq_iff`), as that of two amounts that are not
negative always has.
-/

namespace Stockroom

namespace Money

variable {m n : Money}

/-! ## Differences -/

/-- **A difference is exact** if and only if it has 64 bits. -/
theorem subtract_eq_iff : m.subtract n = m.amount - n.amount ↔ Width.int64.Fits (m.amount - n.amount) :=
  Width.wrap_eq_iff

/-! ## Reckonings -/

/-- **A reckoning**: amounts that are made of numbers, added up and multiplied. -/
inductive Reckoning where
  | given (amount : Int) (fits : Width.int64.Fits amount)
  | zero
  | add (r s : Reckoning)
  | multiply (r : Reckoning) (quantity : Int) (fits : Width.int32.Fits quantity)

namespace Reckoning

/-- What comes out, unless a step fails. -/
def result : Reckoning → Except Refusal Money
  | given amount _ => Money.of amount
  | zero => .ok Money.zero
  | add r s => do (← r.result).add (← s.result)
  | multiply r quantity _ => do (← r.result).multiply quantity

/-- What comes out among the integers. -/
def value : Reckoning → Int
  | given amount _ => amount
  | zero => 0
  | add r s => r.value + s.value
  | multiply r quantity _ => r.value * quantity

/-- The reckonings of all amounts on the way, from the last one back. -/
def parts : Reckoning → List Reckoning
  | given amount fits => [given amount fits]
  | zero => [zero]
  | add r s => add r s :: (r.parts ++ s.parts)
  | multiply r quantity fits => multiply r quantity fits :: r.parts

/-- No number it begins with is negative, and every sum and every product has 64 bits. -/
def IsFeasible : Reckoning → Prop
  | given amount _ => 0 ≤ amount
  | zero => True
  | add r s => r.IsFeasible ∧ s.IsFeasible ∧ Width.int64.Fits (r.value + s.value)
  | multiply r quantity _ => r.IsFeasible ∧ Width.int64.Fits (r.value * quantity)

/-- No amount above zero is multiplied by a negative quantity. -/
def KeepsSign : Reckoning → Prop
  | given _ _ | zero => True
  | add r s => r.KeepsSign ∧ s.KeepsSign
  | multiply r quantity _ => r.KeepsSign ∧ (0 < r.value → 0 ≤ quantity)

/-- **No amount on the way is negative or too large.** -/
def InRange (r : Reckoning) : Prop := ∀ part ∈ r.parts, ∃ m, part.result = .ok m ∧ m.IsAmount

variable {r part : Reckoning}

theorem self_mem_parts (r : Reckoning) : r ∈ r.parts := by
  cases r <;> simp [parts]

/-! ## The result -/

/-- **A result is that of the integers**, and there is one if every step is feasible. -/
theorem result_eq_ok_iff : r.result = .ok m ↔ r.IsFeasible ∧ m = ⟨r.value⟩ := by
  induction r generalizing m with
  | given amount fits => exact of_eq_ok_iff
  | zero => simp [result, IsFeasible, value, Money.zero, eq_comm]
  | add r s ihr ihs =>
    simp only [result, bind_eq_ok_iff, ihr, ihs, Money.add, checked_eq_ok_iff, IsFeasible, value]
    constructor
    · rintro ⟨_, ⟨hr, rfl⟩, _, ⟨hs, rfl⟩, hfits, rfl⟩
      exact ⟨⟨hr, hs, hfits⟩, rfl⟩
    · rintro ⟨⟨hr, hs, hfits⟩, rfl⟩
      exact ⟨_, ⟨hr, rfl⟩, _, ⟨hs, rfl⟩, hfits, rfl⟩
  | multiply r quantity fits ih =>
    simp only [result, bind_eq_ok_iff, ih, Money.multiply, checked_eq_ok_iff, IsFeasible, value]
    constructor
    · rintro ⟨_, ⟨hr, rfl⟩, hfits, rfl⟩
      exact ⟨⟨hr, hfits⟩, rfl⟩
    · rintro ⟨⟨hr, hfits⟩, rfl⟩
      exact ⟨_, ⟨hr, rfl⟩, hfits, rfl⟩

theorem IsFeasible.fits_value (h : r.IsFeasible) : Width.int64.Fits r.value := by
  cases r with
  | given amount fits => exact fits
  | zero => decide
  | add r s => exact h.2.2
  | multiply r quantity fits => exact h.2

/-- The amounts on the way to a result are results. -/
theorem IsFeasible.of_mem_parts (h : r.IsFeasible) (hpart : part ∈ r.parts) : part.IsFeasible := by
  induction r with
  | given amount fits => exact List.mem_singleton.mp hpart ▸ h
  | zero => exact List.mem_singleton.mp hpart ▸ h
  | add r s ihr ihs =>
    rcases List.mem_cons.mp hpart with rfl | hpart
    · exact h
    · exact (List.mem_append.mp hpart).elim (ihr h.1) (ihs h.2.1)
  | multiply r quantity fits ih =>
    rcases List.mem_cons.mp hpart with rfl | hpart
    · exact h
    · exact ih h.1 hpart

/-! ## Signs -/

theorem inRange_iff_nonneg (h : r.IsFeasible) : r.InRange ↔ ∀ part ∈ r.parts, 0 ≤ part.value := by
  refine forall₂_congr fun part hpart => ?_
  have hfeasible := h.of_mem_parts hpart
  constructor
  · rintro ⟨m, hm, hamount⟩
    obtain ⟨-, rfl⟩ := result_eq_ok_iff.mp hm
    exact hamount.nonneg
  · intro hnonneg
    exact ⟨_, result_eq_ok_iff.mpr ⟨hfeasible, rfl⟩, hnonneg, hfeasible.fits_value⟩

/-- **Only a negative multiple of an amount above zero is negative.** -/
theorem nonneg_iff_keepsSign (h : r.IsFeasible) :
    (∀ part ∈ r.parts, 0 ≤ part.value) ↔ r.KeepsSign := by
  -- The sign of a sum or a multiple is that of what it is made of, so the induction is on all parts at once.
  induction r with
  | given amount fits => simpa [parts, value, KeepsSign, IsFeasible] using h
  | zero => simp [parts, value, KeepsSign]
  | add r s ihr ihs =>
    have ihr := ihr h.1
    have ihs := ihs h.2.1
    simp only [parts, List.forall_mem_cons, List.forall_mem_append, ihr, ihs, KeepsSign, value]
    refine and_iff_right_of_imp fun ⟨hr, hs⟩ => ?_
    exact Int.add_nonneg (ihr.mpr hr r r.self_mem_parts) (ihs.mpr hs s s.self_mem_parts)
  | multiply r quantity fits ih =>
    have ih := ih h.1
    simp only [parts, List.forall_mem_cons, ih, KeepsSign, value]
    rw [and_comm]
    refine and_congr_right fun hr => ?_
    rcases (ih.mpr hr r r.self_mem_parts).eq_or_lt with hzero | hpos
    · simp [← hzero]
    · simp [hpos, mul_nonneg_iff_of_pos_left hpos]

theorem inRange_iff_keepsSign (h : r.IsFeasible) : r.InRange ↔ r.KeepsSign :=
  (inRange_iff_nonneg h).trans (nonneg_iff_keepsSign h)

theorem KeepsSign.isAmount (hsign : r.KeepsSign) (h : r.result = .ok m) : m.IsAmount := by
  have hfeasible := (result_eq_ok_iff.mp h).1
  obtain ⟨_, hm, hamount⟩ := (inRange_iff_keepsSign hfeasible).mpr hsign r r.self_mem_parts
  cases h.symm.trans hm
  exact hamount

/-- **Amounts that are worked out stay in range**, and their differences are exact, as long as none above zero
is multiplied by a negative quantity.  A reckoning has a result if and only if its steps are feasible, and it is
that of the integers.  No amount on the way to it leaves the range if and only if signs are kept.  Any
difference is exact if and only if it has 64 bits, and where signs are kept it always has. -/
theorem amounts_inRange (r s : Reckoning) :
    (∀ m, r.result = .ok m ↔ r.IsFeasible ∧ m = ⟨r.value⟩) ∧
      (r.IsFeasible → (r.InRange ↔ r.KeepsSign)) ∧
      (∀ m, r.result = .ok m → r.KeepsSign → 0 ≤ m.amount ∧ m.amount ≤ Width.int64.greatest) ∧
      ∀ m n, r.result = .ok m → s.result = .ok n →
        (m.subtract n = m.amount - n.amount ↔ Width.int64.Fits (m.amount - n.amount)) ∧
          (r.KeepsSign → s.KeepsSign →
            Width.int64.Fits (m.amount - n.amount) ∧ m.subtract n = m.amount - n.amount) := by
  refine ⟨fun m => result_eq_ok_iff, inRange_iff_keepsSign, fun m hr hsign =>
    isAmount_iff.mp (hsign.isAmount hr), fun m n hr hs => ⟨subtract_eq_iff, fun hrsign hssign => ?_⟩⟩
  have hm := hrsign.isAmount hr
  have hn := hssign.isAmount hs
  have hexact := subtract_eq hm.nonneg hm.fits hn.nonneg hn.fits
  exact ⟨subtract_eq_iff.mp hexact, hexact⟩

/-- The greatest amount as a multiple and a rest, taken from the least multiple of nothing. -/
theorem amounts_inRange_greatest :
    let r : Reckoning := .multiply .zero (-2147483648) (by decide)
    let s : Reckoning := .add (.multiply (.given 4294967296 (by decide)) 2147483647 (by decide))
      (.given 4294967295 (by decide))
    r.result = .ok ⟨0⟩ ∧ s.result = .ok ⟨9223372036854775807⟩ ∧ r.KeepsSign ∧ s.KeepsSign ∧
      r.InRange ∧ Money.subtract ⟨0⟩ ⟨9223372036854775807⟩ = -9223372036854775807 := by
  intro r s
  have hr : r.result = .ok ⟨0⟩ := by decide
  have hs : s.result = .ok ⟨9223372036854775807⟩ := by decide
  have hrsign : r.KeepsSign := ⟨trivial, by decide⟩
  have hssign : s.KeepsSign := ⟨⟨trivial, by decide⟩, trivial⟩
  obtain ⟨hresult, hrange, -, hdifference⟩ := amounts_inRange r s
  have hexact := ((hdifference ⟨0⟩ ⟨9223372036854775807⟩ hr hs).2 hrsign hssign).2
  exact ⟨hr, hs, hrsign, hssign, (hrange ((hresult _).mp hr).1).mpr hrsign, hexact⟩

/-- The greatest amount. -/
def greatest : Reckoning := given 9223372036854775807 (by decide)

/-- The greatest amount, multiplied by a quantity below zero. -/
def reversed : Reckoning := multiply greatest (-1) (by decide)

/-- **An amount below zero**: a negative multiple is not refused, and what it differs from the greatest amount by
has more than 64 bits. -/
theorem reversed_negative :
    reversed.result = .ok ⟨-9223372036854775807⟩ ∧ greatest.result = .ok ⟨9223372036854775807⟩ ∧
      (¬∀ (r : Reckoning) m, r.result = .ok m → 0 ≤ m.amount ∧ m.amount ≤ Width.int64.greatest) ∧
      ¬∀ (r s : Reckoning) m n, r.result = .ok m → s.result = .ok n →
        m.subtract n = m.amount - n.amount ∧ Width.int64.Fits (m.amount - n.amount) := by
  have hreversed : reversed.result = .ok ⟨-9223372036854775807⟩ := by decide
  have hgreatest : greatest.result = .ok ⟨9223372036854775807⟩ := by decide
  refine ⟨hreversed, hgreatest, fun h => ?_, fun h => ?_⟩
  · exact absurd (h reversed _ hreversed).1 (by decide)
  · exact absurd (h reversed greatest _ _ hreversed hgreatest).2 (by decide)

end Reckoning

end Money

end Stockroom
