import Stockroom.Proofs.Ledger.Movement

/-!
# Proofs/Ledger/Arithmetic — the counts of a record are exact up to the limits

A record within its bounds moves exactly when the movement `IsAllowed`, which is told in plain integers, and
`Movement.refusal` says why it does not move otherwise.  What a movement leaves is `Movement.moved`: **the
counts are those of the integers, and nothing wraps**.

Out of bounds, where only the widths of the numbers are known, the condition is that of `next_eq_ok_iff`.
The differences that an operation computes without a look at their size are in `Movement.remainder`.
-/

namespace Stockroom

namespace Movement

variable {m : Movement} {r n : StockRecord} {e : Refusal}

/-- The number that is asked for with a movement. -/
def quantity : Movement → Int
  | reserve _ quantity .. | release _ quantity .. | deduct _ quantity ..
  | restock _ quantity .. => quantity
  | adjust _ delta .. => delta

/-- **When a record within its bounds moves.** -/
def IsAllowed (r : StockRecord) : Movement → Prop
  | reserve _ quantity .. => 0 < quantity ∧ quantity ≤ r.available
  | release _ quantity .. | deduct _ quantity .. => 0 < quantity ∧ quantity ≤ r.reserved
  | restock _ quantity .. =>
    0 < quantity ∧ r.available + r.reserved + quantity ≤ Width.int32.greatest
  | adjust _ delta .. => delta ≠ 0 ∧ 0 ≤ r.available + delta ∧
      r.available + delta + r.reserved ≤ Width.int32.greatest

/-- **Why a record within its bounds does not move.** -/
def refusal (r : StockRecord) : Movement → Refusal
  | reserve _ quantity .. =>
    if quantity ≤ 0 then .invalidQuantity quantity
    else .insufficientStock r.product r.available quantity
  | release _ quantity .. | deduct _ quantity .. =>
    if quantity ≤ 0 then .invalidQuantity quantity
    else .invalidMove (.reservedTooSmall r.product r.reserved quantity)
  | restock _ quantity .. =>
    if quantity ≤ 0 then .invalidQuantity quantity
    else .invalidValue (.stockOverflow r.product)
  | adjust _ delta .. =>
    if delta = 0 then .invalidQuantity delta
    else if r.available + delta < 0 then .invalidAdjustment r.product r.available delta
    else .invalidValue (.stockOverflow r.product)

/-- The record with the counts of the integers, one version later. -/
def moved (m : Movement) (r : StockRecord) : StockRecord :=
  { r with
    available := (m.counts r).available
    reserved := (m.counts r).reserved
    version := r.version + 1
    updatedAt := m.now }

/-- What remains where pieces are taken away.  Its size is not looked at. -/
def remainder (r : StockRecord) : Movement → Option Int
  | reserve _ quantity .. => some (r.available - quantity)
  | release _ quantity .. | deduct _ quantity .. => some (r.reserved - quantity)
  | restock .. | adjust .. => none

/-! ## Within the bounds -/

theorem isAllowed_iff (h : r.InBounds) :
    m.IsAllowed r ↔ m.IsCovered r ∧ (m.kind = .deduct ∨ (m.counts r).Fits) := by
  obtain ⟨ha, hr, ht⟩ := h
  have hmax : Width.int32.greatest = 2147483647 := rfl
  cases m <;> simp [IsAllowed, IsCovered, counts, kind, change, ChangeKind.effect, Snapshot.Fits,
    Width.fits_int32] <;> omega

theorem exists_next_iff (h : r.InBounds) : (∃ n, m.next r = .ok n) ↔ m.IsAllowed r := by
  simp [next_eq_ok_iff, isAllowed_iff h]

theorem next_of_not_isAllowed (h : r.InBounds) (hquantity : Width.int32.Fits m.quantity)
    (hnot : ¬m.IsAllowed r) : m.next r = .error (m.refusal r) := by
  obtain ⟨ha, hr, ht⟩ := h
  have hmax : Width.int32.greatest = 2147483647 := rfl
  cases m with
  | reserve product quantity order expiresAt now =>
    simp only [IsAllowed] at hnot
    simp only [refusal]
    split
    · next hle => exact ensurePositive_bind_of_nonpos hle
    · exact StockRecord.reserve_of_short (by omega) (by omega)
  | release product quantity order target now =>
    simp only [IsAllowed] at hnot
    simp only [refusal]
    split
    · next hle => exact ensurePositive_bind_of_nonpos hle
    · exact StockRecord.release_of_short (by omega) (by omega)
  | deduct product quantity order now =>
    simp only [IsAllowed] at hnot
    simp only [refusal]
    split
    · next hle => exact ensurePositive_bind_of_nonpos hle
    · exact StockRecord.deduct_of_short (by omega) (by omega)
  | restock product quantity reason operator now =>
    simp only [IsAllowed] at hnot
    simp only [refusal]
    split
    · next hle => exact ensurePositive_bind_of_nonpos hle
    · refine StockRecord.restock_of_overflow (by omega) fun hfits => ?_
      simp only [Snapshot.Fits, Width.fits_int32] at hfits
      omega
  | adjust product delta reason operator now =>
    simp only [IsAllowed] at hnot
    simp only [quantity, Width.fits_int32] at hquantity
    simp only [refusal]
    split
    · next hzero => exact if_pos hzero
    · next hzero =>
      split
      -- The difference has 32 bits, so a sum below zero is not too small for its own check.
      · next hneg =>
        refine StockRecord.adjust_of_negative hzero ?_ hneg
        simp only [Snapshot.Fits, Width.fits_int32]
        omega
      · refine StockRecord.adjust_of_overflow hzero fun hfits => ?_
        simp only [Snapshot.Fits, Width.fits_int32] at hfits
        omega

theorem eq_refusal_of_next (h : r.InBounds) (hquantity : Width.int32.Fits m.quantity)
    (herror : m.next r = .error e) : e = m.refusal r := by
  by_cases hallowed : m.IsAllowed r
  · obtain ⟨n, hn⟩ := (exists_next_iff h).mpr hallowed
    simp [hn] at herror
  · simpa [herror] using next_of_not_isAllowed h hquantity hallowed

/-! ## Any counts of 32 bits -/

theorem fits_remainder (h : r.Fits) (hcovered : m.IsCovered r) {left : Int}
    (hleft : left ∈ m.remainder r) : Width.int32.Fits left := by
  have ha := Width.fits_int32.mp h.available
  have hr := Width.fits_int32.mp h.reserved
  rw [Width.fits_int32]
  cases m <;> simp [remainder, IsCovered] at hleft hcovered <;> omega

theorem eq_moved_of_next (h : r.Fits) (hlast : r.version < Width.int64.greatest)
    (hnext : m.next r = .ok n) : n = m.moved r := by
  have hversion : Width.int64.wrap (r.version + 1) = r.version + 1 := by
    have hmax : Width.int64.greatest = 9223372036854775807 := rfl
    have := Width.fits_int64.mp h.version
    exact Width.wrap_eq (Width.fits_int64.mpr (by omega))
  rw [(next_eq_ok_iff.mp hnext).2.2, StockRecord.next, hversion, moved]

/-- **The arithmetic of stock is exact up to the limits.**  A record within its bounds moves if and only if
the integers allow it, stays within its bounds, and says otherwise which limit it has met.  With any counts of
32 bits it moves if and only if there are the pieces and the new counts have 32 bits; what is left of a count
never needs more.  And a record that has moved has the counts of the integers. -/
theorem next_exact (h : r.Fits) (hlast : r.version < Width.int64.greatest)
    (hquantity : Width.int32.Fits m.quantity) :
    (r.InBounds →
      ((∃ n, m.next r = .ok n) ↔ m.IsAllowed r) ∧ (∀ n, m.next r = .ok n → n.InBounds) ∧
        ∀ e, m.next r = .error e → e = m.refusal r) ∧
      ((∃ n, m.next r = .ok n) ↔ m.IsCovered r ∧ (m.kind = .deduct ∨ (m.counts r).Fits)) ∧
      (m.IsCovered r → ∀ left ∈ m.remainder r, Width.int32.Fits left) ∧
      ∀ n, m.next r = .ok n → n = m.moved r ∧ n.Fits := by
  refine ⟨fun hbounds => ⟨exists_next_iff hbounds, fun n => next_inBounds hbounds, fun e =>
    eq_refusal_of_next hbounds hquantity⟩, ?_, fun hcovered left => fits_remainder h hcovered, fun n hnext =>
    ⟨eq_moved_of_next h hlast hnext, h.moved hnext⟩⟩
  simp [next_eq_ok_iff]

/-- Seven pieces fit below the limit of 32 bits, and eight do not. -/
theorem next_exact_limit :
    let r : StockRecord := ⟨⟨1⟩, 2147483600, 40, 5, 7, ⟨0⟩, ⟨0⟩⟩
    r.InBounds ∧ r.Fits ∧ r.adjust 7 ⟨60⟩ = .ok ⟨⟨1⟩, 2147483607, 40, 5, 8, ⟨0⟩, ⟨60⟩⟩ ∧
      r.restock 8 ⟨60⟩ = .error (.invalidValue (.stockOverflow ⟨1⟩)) := by
  intro r
  have hbounds : r.InBounds := ⟨by decide, by decide, by decide⟩
  have hfits : r.Fits := ⟨by decide, by decide, by decide, by decide, by decide⟩
  refine ⟨hbounds, hfits, ?_, ?_⟩
  · have hexact := next_exact (m := .adjust ⟨1⟩ 7 none none ⟨60⟩) hfits (by decide) (by decide)
    obtain ⟨n, hn⟩ := (hexact.1 hbounds).1.mpr (by simp [IsAllowed, r, Width.greatest])
    exact hn.trans (congrArg _ (hexact.2.2.2 n hn).1)
  · have hexact := next_exact (m := .restock ⟨1⟩ 8 none none ⟨60⟩) hfits (by decide) (by decide)
    cases hnext : (restock ⟨1⟩ 8 none none ⟨60⟩).next r with
    | ok n => exact absurd ((hexact.1 hbounds).1.mp ⟨n, hnext⟩) (by simp [IsAllowed, r, Width.greatest])
    | error e => exact hnext.trans (congrArg _ ((hexact.1 hbounds).2.2 e hnext))

end Movement

end Stockroom
