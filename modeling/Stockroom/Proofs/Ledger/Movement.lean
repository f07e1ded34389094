import Stockroom.Proofs.Ledger.Record
import Stockroom.Store.Write

/-!
# Proofs/Ledger/Movement — the five ways in which stock moves

A `Movement` is one movement of stock with everything that decides it besides the record that it
meets.  **`Movement.Posts` says what a movement does to the tables as a whole**: it replaces the live
record of its product, opens or settles a reservation, and appends one entry.  Units of work and the
versions that they have read do not occur in it; how a unit of work comes to post its movements is
the matter of later modules.
-/

namespace Stockroom

open Store

/-- What a change of a kind adds to the free and to the held pieces. -/
def ChangeKind.effect : ChangeKind → Int → Int × Int
  | reserve, change | release, change => (-change, change)
  | deduct, change => (0, change)
  | restock, change | adjust, change => (change, 0)

/-- One movement of stock. -/
inductive Movement where
  | reserve (product : ProductId) (quantity : Int) (order : OrderId) (expiresAt now : Instant)
  | release (product : ProductId) (quantity : Int) (order : OrderId) (target : ReleaseTarget)
      (now : Instant)
  | deduct (product : ProductId) (quantity : Int) (order : OrderId) (now : Instant)
  | restock (product : ProductId) (quantity : Int) (reason : Option String)
      (operator : Option OperatorId) (now : Instant)
  | adjust (product : ProductId) (delta : Int) (reason : Option String)
      (operator : Option OperatorId) (now : Instant)

namespace Movement

/-- The product that moves. -/
def product : Movement → ProductId
  | reserve product .. | release product .. | deduct product .. | restock product ..
  | adjust product .. => product

/-- When the stock moves. -/
def now : Movement → Instant
  | reserve _ _ _ _ now | release _ _ _ _ now | deduct _ _ _ now | restock _ _ _ _ now
  | adjust _ _ _ _ now => now

def kind : Movement → ChangeKind
  | reserve .. => .reserve
  | release .. => .release
  | deduct .. => .deduct
  | restock .. => .restock
  | adjust .. => .adjust

/-- The change that the ledger records, negative where held pieces leave. -/
def change : Movement → Int
  | reserve _ quantity .. | restock _ quantity .. => quantity
  | release _ quantity .. | deduct _ quantity .. => -quantity
  | adjust _ delta .. => delta

/-- The order whose reservation moves along. -/
def order? : Movement → Option OrderId
  | reserve _ _ order .. | release _ _ order .. | deduct _ _ order .. => some order
  | restock .. | adjust .. => none

def reason : Movement → String
  | reserve .. => "Stock reserved for order"
  | release _ _ _ target _ => target.reason
  | deduct .. => "Stock deducted for confirmed order"
  | restock _ _ reason .. => reason.getD "Restock"
  | adjust _ _ reason .. => reason.getD "Manual adjustment"

def operator : Movement → Option OperatorId
  | restock _ _ _ operator _ | adjust _ _ _ operator _ => operator
  | reserve .. | release .. | deduct .. => none

/-- The entry of a movement between two counts. -/
def entry (m : Movement) (before after : Snapshot) : Entry :=
  ⟨none, m.product, m.order?, m.kind, m.change, before, after, some m.reason, m.operator, m.now⟩

/-! ## The record -/

/-- The record after a movement, or why it does not move. -/
def next : Movement → StockRecord → Except Refusal StockRecord
  | reserve _ quantity _ _ now, r => r.reserve quantity now
  | release _ quantity _ _ now, r => r.release quantity now
  | deduct _ quantity _ now, r => r.deduct quantity now
  | restock _ quantity _ _ now, r => r.restock quantity now
  | adjust _ delta _ _ now, r => r.adjust delta now

variable {m : Movement} {r n : StockRecord}

/-- **The counts after a movement**, as plain integers. -/
def counts (m : Movement) (r : StockRecord) : Snapshot :=
  ⟨r.available + (m.kind.effect m.change).1, r.reserved + (m.kind.effect m.change).2⟩

/-- The quantity has its sign, and there are as many pieces as it takes away. -/
def IsCovered (r : StockRecord) : Movement → Prop
  | reserve _ quantity .. => 0 < quantity ∧ quantity ≤ r.available
  | release _ quantity .. | deduct _ quantity .. => 0 < quantity ∧ quantity ≤ r.reserved
  | restock _ quantity .. => 0 < quantity
  | adjust _ delta .. => delta ≠ 0 ∧ 0 ≤ r.available + delta

/-- **When a record moves, and where to**: the pieces are there, and 32 bits hold the counts.  A deduction
only takes away, and nobody looks at the size of what it leaves. -/
theorem next_eq_ok_iff :
    m.next r = .ok n ↔ m.IsCovered r ∧ (m.kind = .deduct ∨ (m.counts r).Fits) ∧
      n = r.next (m.counts r).available (m.counts r).reserved m.now := by
  cases m with
  | reserve =>
    simp [next, StockRecord.reserve_eq_ok_iff, StockRecord.nextChecked_eq_ok_iff, IsCovered, kind,
      counts, change, ChangeKind.effect, Movement.now, Snapshot.Fits, Int.sub_eq_add_neg, and_assoc]
  | release =>
    simp [next, StockRecord.release_eq_ok_iff, StockRecord.nextChecked_eq_ok_iff, IsCovered, kind,
      counts, change, ChangeKind.effect, Movement.now, Snapshot.Fits, Int.sub_eq_add_neg, and_assoc]
  | deduct =>
    simp [next, StockRecord.deduct_eq_ok_iff, IsCovered, kind, counts, change, ChangeKind.effect,
      Movement.now, Int.sub_eq_add_neg, and_assoc]
  | restock =>
    simp [next, StockRecord.restock_eq_ok_iff, StockRecord.nextChecked_eq_ok_iff, IsCovered, kind,
      counts, change, ChangeKind.effect, Movement.now, Snapshot.Fits]
  | adjust =>
    simp [next, StockRecord.adjust_eq_ok_iff, StockRecord.nextChecked_eq_ok_iff, IsCovered, kind,
      counts, change, ChangeKind.effect, Movement.now, Snapshot.Fits, and_assoc]

/-- **A record moves by the effect of the change**, and its version by one. -/
theorem next_eq (h : m.next r = .ok n) :
    n = r.next (r.available + (m.kind.effect m.change).1) (r.reserved + (m.kind.effect m.change).2)
      m.now :=
  (next_eq_ok_iff.mp h).2.2

theorem counts_nonneg (hr : r.InBounds) (hcovered : m.IsCovered r) :
    0 ≤ (m.counts r).available ∧ 0 ≤ (m.counts r).reserved := by
  obtain ⟨ha, hres, -⟩ := hr
  cases m <;> simp [IsCovered] at hcovered <;> simp [counts, kind, change, ChangeKind.effect] <;> omega

/-- A deduction leaves a part of the held pieces. -/
theorem counts_of_deduct (hkind : m.kind = .deduct) (hcovered : m.IsCovered r) :
    (m.counts r).available = r.available ∧ 0 ≤ (m.counts r).reserved ∧
      (m.counts r).reserved ≤ r.reserved := by
  cases m <;> simp [kind] at hkind
  simp [IsCovered] at hcovered
  simp [counts, kind, change, ChangeKind.effect]
  omega

/-- **Every movement keeps the bounds of a record.** -/
theorem next_inBounds (hr : r.InBounds) (h : m.next r = .ok n) : n.InBounds := by
  obtain ⟨hcovered, hfits, rfl⟩ := next_eq_ok_iff.mp h
  obtain ⟨ha, hres⟩ := counts_nonneg hr hcovered
  refine ⟨ha, hres, ?_⟩
  rcases hfits with hkind | hfits
  · obtain ⟨havailable, -, hreserved⟩ := counts_of_deduct hkind hcovered
    exact Int.le_trans (Int.add_le_add (Int.le_of_eq havailable) hreserved) hr.total
  · exact hfits.2.2.2

/-- A movement that there are pieces for leaves counts of 32 bits. -/
theorem fits_counts (hr : r.Fits) (hcovered : m.IsCovered r)
    (h : m.kind = .deduct ∨ (m.counts r).Fits) :
    Width.int32.Fits (m.counts r).available ∧ Width.int32.Fits (m.counts r).reserved := by
  rcases h with hkind | hfits
  · obtain ⟨havailable, hnonneg, hreserved⟩ := counts_of_deduct hkind hcovered
    exact ⟨havailable ▸ hr.available, Int.le_trans (by decide) hnonneg,
      Int.le_trans hreserved hr.reserved.2⟩
  · exact ⟨hfits.1, hfits.2.1⟩

end Movement

/-- **Every movement keeps the widths.** -/
theorem StockRecord.Fits.moved {m : Movement} {r n : StockRecord} (h : r.Fits) (hm : m.next r = .ok n) :
    n.Fits := by
  obtain ⟨hcovered, hfits, rfl⟩ := Movement.next_eq_ok_iff.mp hm
  obtain ⟨ha, hr⟩ := Movement.fits_counts h hcovered hfits
  exact h.next ha hr m.now

namespace Movement

/-! ## The tables -/

/-- **What a movement does to the reservations**: it opens the one of its product and order, settles
it, or leaves them all alone. -/
def Marks (t t' : Table ReservationKey Reservation) : Movement → Prop
  | reserve product quantity order expiresAt now =>
    t.get? ⟨product, order⟩ = none ∧
      t' = t.insert ⟨product, order⟩ (.start product order quantity expiresAt now)
  | release product quantity order target now => ∃ r, t.get? ⟨product, order⟩ = some r ∧
      r.status = .active ∧ r.quantity = quantity ∧
      t' = t.insert ⟨product, order⟩ { r with status := target.status, updatedAt := now }
  | deduct product quantity order now => ∃ r, t.get? ⟨product, order⟩ = some r ∧
      r.status = .active ∧ r.quantity = quantity ∧
      t' = t.insert ⟨product, order⟩ { r with status := .confirmed, updatedAt := now }
  | restock .. | adjust .. => t' = t

/-- **What a movement does to the tables.**  The record that it was computed from, `seen`, agrees with
the live one; the entry shows the counts that were seen, except that a restock may show others that
lie as far apart. -/
inductive Posts (m : Movement) : Tables → Tables → Prop
  | intro {t : Tables} {live seen next : StockRecord}
      {reservations : Table ReservationKey Reservation} {before after : Snapshot}
      (hlive : t.liveStock? m.product = some live) (hseen : seen.Agrees live)
      (hnext : m.next seen = .ok next) (hversion : next.version = live.version + 1)
      (hmarks : Marks t.reservations reservations m)
      (hshown : (after.available - before.available, after.reserved - before.reserved) =
        m.kind.effect m.change)
      (hbefore : m.kind ≠ .restock → before = seen.snapshot) :
      m.Posts t
        { t with
          stock := t.stock.insert m.product ⟨next, none⟩
          reservations := reservations
          entries := t.entries ++ [(m.entry before after).numbered (t.lastEntryId + 1)]
          lastEntryId := t.lastEntryId + 1 }

end Movement

end Stockroom
