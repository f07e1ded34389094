import Stockroom.Proofs.Data.Except
import Stockroom.Stock.Record

/-!
# Proofs/Ledger/Record — when a record can move, and where it moves to

Each of the five operations of a record succeeds exactly under the condition that its
`…_eq_ok_iff` states, and then answers one `StockRecord.next`.  `StockRecord.InBounds` is what all of
them keep: neither count is negative, and both together fit in 32 bits.  Where the condition fails, the
`…_of_short`, `…_of_overflow` and `…_of_negative` lemmas say how the record is left unmoved.
-/

namespace Stockroom

/-- **32 bits hold both counts and their sum.** -/
def Snapshot.Fits (s : Snapshot) : Prop :=
  Width.int32.Fits s.available ∧ Width.int32.Fits s.reserved ∧
    Width.int32.Fits (s.available + s.reserved)

namespace StockRecord

variable {r n : StockRecord} {quantity delta available reserved : Int} {now : Instant}

/-- **Neither count is negative, and their sum fits in 32 bits.** -/
structure InBounds (r : StockRecord) : Prop where
  available : 0 ≤ r.available
  reserved : 0 ≤ r.reserved
  total : r.available + r.reserved ≤ Width.int32.greatest

/-- The counts, the version and the origin of two records are the same. -/
structure Agrees (r r' : StockRecord) : Prop where
  product : r.product = r'.product
  available : r.available = r'.available
  reserved : r.reserved = r'.reserved
  version : r.version = r'.version
  createdAt : r.createdAt = r'.createdAt

theorem Agrees.refl (r : StockRecord) : r.Agrees r := ⟨rfl, rfl, rfl, rfl, rfl⟩

theorem Agrees.trans {r r' r'' : StockRecord} (h : r.Agrees r') (h' : r'.Agrees r'') :
    r.Agrees r'' :=
  ⟨h.product.trans h'.product, h.available.trans h'.available, h.reserved.trans h'.reserved,
    h.version.trans h'.version, h.createdAt.trans h'.createdAt⟩

theorem ensureReserved_eq_ok_iff {u : Unit} :
    r.ensureReserved quantity = .ok u ↔ quantity ≤ r.reserved := by
  unfold ensureReserved
  split <;> simp <;> omega

theorem nextChecked_eq_ok_iff :
    r.nextChecked available reserved now = .ok n ↔
      (Width.int32.Fits available ∧ Width.int32.Fits reserved ∧
        Width.int32.Fits (available + reserved)) ∧ n = r.next available reserved now := by
  unfold nextChecked
  split
  · next h => simp [h, eq_comm]
  · next h => simp [h]

theorem reserve_eq_ok_iff :
    r.reserve quantity now = .ok n ↔
      0 < quantity ∧ quantity ≤ r.available ∧
        r.nextChecked (r.available - quantity) (r.reserved + quantity) now = .ok n := by
  unfold reserve
  by_cases hc : quantity ≤ r.available <;>
    simp [bind_eq_ok_iff, ensurePositive_eq_ok_iff, covers, hc]

theorem release_eq_ok_iff :
    r.release quantity now = .ok n ↔
      0 < quantity ∧ quantity ≤ r.reserved ∧
        r.nextChecked (r.available + quantity) (r.reserved - quantity) now = .ok n := by
  simp [release, bind_eq_ok_iff, ensurePositive_eq_ok_iff, ensureReserved_eq_ok_iff]

theorem deduct_eq_ok_iff :
    r.deduct quantity now = .ok n ↔
      0 < quantity ∧ quantity ≤ r.reserved ∧
        n = r.next r.available (r.reserved - quantity) now := by
  rw [eq_comm (a := n)]
  simp [deduct, bind_eq_ok_iff, ensurePositive_eq_ok_iff, ensureReserved_eq_ok_iff]

theorem restock_eq_ok_iff :
    r.restock quantity now = .ok n ↔
      0 < quantity ∧ r.nextChecked (r.available + quantity) r.reserved now = .ok n := by
  simp [restock, bind_eq_ok_iff, ensurePositive_eq_ok_iff]

theorem adjust_eq_ok_iff :
    r.adjust delta now = .ok n ↔
      delta ≠ 0 ∧ 0 ≤ r.available + delta ∧
        r.nextChecked (r.available + delta) r.reserved now = .ok n := by
  unfold adjust
  by_cases hd : delta = 0
  · simp [hd]
  by_cases hn : r.available + delta < 0
  · have hn' : ¬0 ≤ r.available + delta := Int.not_le.mpr hn
    simp [hd, hn, hn', bind_eq_ok_iff]
  · simp [hd, hn, Int.not_lt.mp hn]

theorem register_eq_ok_iff {product : ProductId} {stock threshold : Int} :
    register product stock threshold now = .ok n ↔
      0 ≤ stock ∧ 0 ≤ threshold ∧ n = ⟨product, stock, 0, threshold, 0, now, now⟩ := by
  unfold register ensureThreshold
  rw [eq_comm (a := n), ← Int.not_lt (a := stock), ← Int.not_lt (a := threshold)]
  by_cases hs : stock < 0 <;> by_cases ht : threshold < 0 <;> simp [hs, ht]

theorem withThreshold_eq_ok_iff {threshold : Int} :
    r.withThreshold threshold now = .ok n ↔
      0 ≤ threshold ∧ n = { r with threshold := threshold, updatedAt := now } := by
  unfold withThreshold ensureThreshold
  rw [eq_comm (a := n), ← Int.not_lt]
  by_cases ht : threshold < 0 <;> simp [ht]

/-! ## Pieces that pass between the counts -/

theorem fits_of_nonneg (ha : 0 ≤ available) (hr : 0 ≤ reserved)
    (ht : available + reserved ≤ Width.int32.greatest) : Snapshot.Fits ⟨available, reserved⟩ := by
  rw [show Width.int32.greatest = 2147483647 from rfl] at ht
  simp only [Snapshot.Fits, Width.fits_int32]
  omega

/-- **Within its bounds a record holds the free pieces that there are.** -/
theorem reserve_of_covered (h : r.InBounds) (hpos : 0 < quantity) (hle : quantity ≤ r.available)
    (now : Instant) :
    r.reserve quantity now = .ok (r.next (r.available - quantity) (r.reserved + quantity) now) := by
  obtain ⟨ha, hres, ht⟩ := h
  have hfits : Snapshot.Fits ⟨r.available - quantity, r.reserved + quantity⟩ :=
    fits_of_nonneg (by omega) (by omega) (by omega)
  exact reserve_eq_ok_iff.mpr ⟨hpos, hle, nextChecked_eq_ok_iff.mpr ⟨hfits, rfl⟩⟩

/-- **Within its bounds a record gives back the pieces that it holds.** -/
theorem release_of_covered (h : r.InBounds) (hpos : 0 < quantity) (hle : quantity ≤ r.reserved)
    (now : Instant) :
    r.release quantity now = .ok (r.next (r.available + quantity) (r.reserved - quantity) now) := by
  obtain ⟨ha, hres, ht⟩ := h
  have hfits : Snapshot.Fits ⟨r.available + quantity, r.reserved - quantity⟩ :=
    fits_of_nonneg (by omega) (by omega) (by omega)
  exact release_eq_ok_iff.mpr ⟨hpos, hle, nextChecked_eq_ok_iff.mpr ⟨hfits, rfl⟩⟩

/-! ## Refusals -/

theorem ensureReserved_of_short (h : r.reserved < quantity) :
    r.ensureReserved quantity =
      .error (.invalidMove (.reservedTooSmall r.product r.reserved quantity)) := if_pos h

theorem nextChecked_of_overflow (h : ¬Snapshot.Fits ⟨available, reserved⟩) :
    r.nextChecked available reserved now = .error (.invalidValue (.stockOverflow r.product)) := if_neg h

theorem reserve_of_short (hpos : 0 < quantity) (h : r.available < quantity) :
    r.reserve quantity now = .error (.insufficientStock r.product r.available quantity) := by
  have hcovers : r.covers quantity = false := decide_eq_false (Int.not_le.mpr h)
  rw [reserve, ensurePositive_eq_ok_iff (u := ()).mpr hpos, hcovers]
  rfl

theorem release_of_short (hpos : 0 < quantity) (h : r.reserved < quantity) :
    r.release quantity now =
      .error (.invalidMove (.reservedTooSmall r.product r.reserved quantity)) := by
  rw [release, ensurePositive_eq_ok_iff (u := ()).mpr hpos, ensureReserved_of_short h]
  rfl

theorem deduct_of_short (hpos : 0 < quantity) (h : r.reserved < quantity) :
    r.deduct quantity now =
      .error (.invalidMove (.reservedTooSmall r.product r.reserved quantity)) := by
  rw [deduct, ensurePositive_eq_ok_iff (u := ()).mpr hpos, ensureReserved_of_short h]
  rfl

theorem restock_of_overflow (hpos : 0 < quantity)
    (h : ¬Snapshot.Fits ⟨r.available + quantity, r.reserved⟩) :
    r.restock quantity now = .error (.invalidValue (.stockOverflow r.product)) := by
  rw [restock, ensurePositive_eq_ok_iff (u := ()).mpr hpos]
  exact nextChecked_of_overflow h

theorem adjust_of_overflow (hne : delta ≠ 0) (h : ¬Snapshot.Fits ⟨r.available + delta, r.reserved⟩) :
    r.adjust delta now = .error (.invalidValue (.stockOverflow r.product)) := by
  rw [adjust, if_neg hne, nextChecked_of_overflow h]
  rfl

/-- The sign of a correction is looked at once its size has passed. -/
theorem adjust_of_negative (hne : delta ≠ 0) (h : Snapshot.Fits ⟨r.available + delta, r.reserved⟩)
    (hneg : r.available + delta < 0) :
    r.adjust delta now = .error (.invalidAdjustment r.product r.available delta) := by
  rw [adjust, if_neg hne, nextChecked_eq_ok_iff.mpr ⟨h, rfl⟩]
  simp [hneg]
  rfl

/-! ## Widths -/

/-- The numbers of a record have their widths. -/
structure Fits (r : StockRecord) : Prop where
  product : Width.int64.Fits r.product.value
  available : Width.int32.Fits r.available
  reserved : Width.int32.Fits r.reserved
  threshold : Width.int32.Fits r.threshold
  version : Width.int64.Fits r.version

theorem Fits.next (h : r.Fits) (ha : Width.int32.Fits available) (hr : Width.int32.Fits reserved)
    (now : Instant) : (r.next available reserved now).Fits :=
  ⟨h.product, ha, hr, h.threshold, Width.fits_wrap _ _⟩

/-! ## Thresholds -/

/-- The product and the threshold of two records are the same. -/
structure SameThreshold (r r' : StockRecord) : Prop where
  product : r'.product = r.product
  threshold : r'.threshold = r.threshold

namespace SameThreshold

variable {r' : StockRecord}

theorem nextChecked (h : r.nextChecked available reserved now = .ok r') :
    r.SameThreshold r' := by
  obtain ⟨-, rfl⟩ := nextChecked_eq_ok_iff.mp h
  exact ⟨rfl, rfl⟩

theorem reserve (h : r.reserve quantity now = .ok r') : r.SameThreshold r' :=
  nextChecked (reserve_eq_ok_iff.mp h).2.2

theorem release (h : r.release quantity now = .ok r') : r.SameThreshold r' :=
  nextChecked (release_eq_ok_iff.mp h).2.2

theorem deduct (h : r.deduct quantity now = .ok r') : r.SameThreshold r' := by
  obtain ⟨-, -, rfl⟩ := deduct_eq_ok_iff.mp h
  exact ⟨rfl, rfl⟩

theorem restock (h : r.restock quantity now = .ok r') : r.SameThreshold r' :=
  nextChecked (restock_eq_ok_iff.mp h).2

theorem adjust (h : r.adjust delta now = .ok r') : r.SameThreshold r' :=
  nextChecked (adjust_eq_ok_iff.mp h).2.2

end SameThreshold

end StockRecord

end Stockroom
