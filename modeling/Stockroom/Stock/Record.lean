import Stockroom.Calendar.Instant
import Stockroom.Refusal

/-!
# Stock/Record — the stock of one product

A `StockRecord` counts the pieces that are free to sell and the pieces that are held for orders.
The five operations `reserve`, `release`, `deduct`, `restock` and `adjust` answer the next record
or a refusal; each next record has the next version, so a writer can tell whether the record it
read is still the newest.
-/

namespace Stockroom

/-- The two counts of a record at some moment. -/
structure Snapshot where
  available : Int
  reserved : Int
deriving DecidableEq, Repr

/-- The stock of one product. -/
structure StockRecord where
  product : ProductId
  available : Int
  reserved : Int
  /-- At or below this many free pieces the stock counts as low. -/
  threshold : Int
  version : Int
  createdAt : Instant
  updatedAt : Instant
deriving DecidableEq, Repr

namespace StockRecord

/-- A threshold may not be negative. -/
def ensureThreshold (threshold : Int) : Except Refusal Unit :=
  if threshold < 0 then .error (.invalidValue (.negativeThreshold threshold)) else .ok ()

/-- The record of a product that enters the stockroom. -/
def register (product : ProductId) (stock threshold : Int) (now : Instant) :
    Except Refusal StockRecord := do
  if stock < 0 then throw (.invalidQuantity stock)
  ensureThreshold threshold
  return ⟨product, stock, 0, threshold, 0, now, now⟩

/-- All pieces, free or held; a sum too large for 32 bits counts as the largest number. -/
def total (r : StockRecord) : Int :=
  max Width.int32.least (min Width.int32.greatest (r.available + r.reserved))

def isLow (r : StockRecord) : Bool := r.available ≤ r.threshold

def covers (r : StockRecord) (quantity : Int) : Bool := r.available ≥ quantity

def snapshot (r : StockRecord) : Snapshot := ⟨r.available, r.reserved⟩

/-- The record with new counts, one version later. -/
def next (r : StockRecord) (available reserved : Int) (now : Instant) : StockRecord :=
  { r with
    available := available
    reserved := reserved
    version := Width.int64.wrap (r.version + 1)
    updatedAt := now }

/-- The next record, provided that both counts and their sum fit in 32 bits. -/
def nextChecked (r : StockRecord) (available reserved : Int) (now : Instant) :
    Except Refusal StockRecord :=
  if Width.int32.Fits available ∧ Width.int32.Fits reserved ∧
      Width.int32.Fits (available + reserved) then
    .ok (r.next available reserved now)
  else .error (.invalidValue (.stockOverflow r.product))

/-- The held pieces have to cover the quantity. -/
def ensureReserved (r : StockRecord) (quantity : Int) : Except Refusal Unit :=
  if r.reserved < quantity then
    .error (.invalidMove (.reservedTooSmall r.product r.reserved quantity))
  else .ok ()

/-- Free pieces become held. -/
def reserve (r : StockRecord) (quantity : Int) (now : Instant) : Except Refusal StockRecord := do
  ensurePositive quantity
  unless r.covers quantity do
    throw (.insufficientStock r.product r.available quantity)
  r.nextChecked (r.available - quantity) (r.reserved + quantity) now

/-- Held pieces become free again. -/
def release (r : StockRecord) (quantity : Int) (now : Instant) : Except Refusal StockRecord := do
  ensurePositive quantity
  r.ensureReserved quantity
  r.nextChecked (r.available + quantity) (r.reserved - quantity) now

/-- Held pieces leave the stockroom. -/
def deduct (r : StockRecord) (quantity : Int) (now : Instant) : Except Refusal StockRecord := do
  ensurePositive quantity
  r.ensureReserved quantity
  return r.next r.available (r.reserved - quantity) now

/-- New pieces arrive. -/
def restock (r : StockRecord) (quantity : Int) (now : Instant) : Except Refusal StockRecord := do
  ensurePositive quantity
  r.nextChecked (r.available + quantity) r.reserved now

/-- The free pieces are corrected by a difference.  A result too large is refused before a negative
one. -/
def adjust (r : StockRecord) (delta : Int) (now : Instant) : Except Refusal StockRecord := do
  if delta = 0 then throw (.invalidQuantity delta)
  let adjusted ← r.nextChecked (r.available + delta) r.reserved now
  if r.available + delta < 0 then throw (.invalidAdjustment r.product r.available delta)
  return adjusted

/-- Another threshold; counts and version stay. -/
def withThreshold (r : StockRecord) (threshold : Int) (now : Instant) :
    Except Refusal StockRecord := do
  ensureThreshold threshold
  return { r with threshold := threshold, updatedAt := now }

end StockRecord

end Stockroom
