import Stockroom.Order.Line
import Stockroom.Service.Call
import Stockroom.Service.Settings

/-!
# Service/Stock — calls that move stock

Every movement reads the record of a product, computes the next one, and writes it only if the
version that it read is still there; otherwise the call ends with a lost race.  Record, reservation
and ledger entry are written in one unit of work.  The calls whose names end in `In` work inside
the unit of work of their caller.
-/

namespace Stockroom.StockService

open Call

/-- The name under which these calls write log records. -/
def component : String := "InventoryService"

def report (level : LogLevel) (message : String) (context : List (String × String))
    (correlation : Option CorrelationId) : Call Unit :=
  log ⟨level, component, message, correlation, some context⟩

/-- The details of a movement, for the log. -/
def movementContext (product : ProductId) (order : Option OrderId) (quantity : Int)
    (record : StockRecord) : List (String × String) :=
  [ ("product_id", toString product),
    ("quantity", toString quantity),
    ("available", toString record.available),
    ("reserved", toString record.reserved),
    ("version", toString record.version) ] ++
  (order.map fun id => ("order_id", toString id)).toList

/-! ## Steps inside a unit of work -/

def loadStock (product : ProductId) : Call StockRecord := do
  match ← within (.findStock product) with
  | some record => return record
  | none => throw (.notFound (.stock product))

/-- Writes the next record unless somebody else has replaced the current one. -/
def replaceGuarded (current next : StockRecord) : Call Unit :=
  insist (within (.replaceStock next current.version))
    (.concurrentUpdate (.stock current.product current.version))

/-- The reservation of a pair, ready to be settled as a whole. -/
def loadSettleable (product : ProductId) (order : OrderId) (quantity : Int) :
    Call Reservation := do
  match ← within (.findReservation product order) with
  | some reservation =>
    obey (reservation.ensureSettleable quantity)
    return reservation
  | none => throw (.notFound (.reservation product order))

/-- Moves an active reservation to its end. -/
def settle (product : ProductId) (order : OrderId) (status : ReservationStatus) (now : Instant) :
    Call Unit :=
  insist (within (.moveReservation product order .active status now))
    (.concurrentUpdate (.reservation product order))

/-- A reservation that starts now.  If its end lies outside the calendar the call stops without an
answer. -/
def openReservation (product : ProductId) (order : OrderId) (quantity : Int) (ttl : Span)
    (now : Instant) : Call Reservation := do
  obey (← orAbort (Reservation.lasting product order quantity ttl now).run)

/-- Reserves stock in the unit of work of the caller. -/
def reserveIn (product : ProductId) (quantity : Int) (order : OrderId) (ttl : Span) :
    Call StockRecord := do
  let now ← now
  let current ← loadStock product
  let next ← obey (current.reserve quantity now)
  replaceGuarded current next
  let reservation ← openReservation product order quantity ttl now
  within (.insertReservation reservation)
  let entry := Entry.ofRecords .reserve quantity current next now
  within (.appendEntry ((entry.forOrder order).because "Stock reserved for order"))
  report .debug "在庫を予約しました" (movementContext product order quantity next) none
  return next

/-- Gives reserved stock back in the unit of work of the caller. -/
def releaseIn (product : ProductId) (quantity : Int) (order : OrderId) (target : ReleaseTarget) :
    Call StockRecord := do
  let now ← now
  let _ ← loadSettleable product order quantity
  let current ← loadStock product
  let next ← obey (current.release quantity now)
  replaceGuarded current next
  settle product order target.status now
  let entry := Entry.ofRecords .release (-quantity) current next now
  within (.appendEntry ((entry.forOrder order).because target.reason))
  report .debug "予約を解放しました" (movementContext product order quantity next) none
  return next

/-- Takes reserved stock out in the unit of work of the caller. -/
def deductIn (product : ProductId) (quantity : Int) (order : OrderId) : Call StockRecord := do
  let now ← now
  let _ ← loadSettleable product order quantity
  let current ← loadStock product
  let next ← obey (current.deduct quantity now)
  replaceGuarded current next
  settle product order .confirmed now
  let entry := Entry.ofRecords .deduct (-quantity) current next now
  within (.appendEntry ((entry.forOrder order).because "Stock deducted for confirmed order"))
  report .debug "在庫を出庫確定しました" (movementContext product order quantity next) none
  return next

/-- The counts that a restock has met, told from those that it has led to.  Nobody looks at the size of the
difference, which has 32 bits whatever was read back. -/
def beforeRestock (after : StockRecord) (quantity : Int) : Snapshot :=
  ⟨Width.int32.wrap (after.available - quantity), after.reserved⟩

/-- Adds arrived pieces.  The addition does not depend on the version read, so it loses no race; the
entry records the counts read back after it. -/
def restockIn (product : ProductId) (quantity : Int) (reason : Option String)
    (operator : Option OperatorId) : Call StockRecord := do
  let now ← now
  let current ← loadStock product
  let _ ← obey (current.restock quantity now)
  insist (within (.increaseStock product quantity now)) (.notFound (.stock product))
  let after ← loadStock product
  let before := beforeRestock after quantity
  let entry := Entry.ofSnapshots product .restock quantity before after.snapshot now
  within (.appendEntry ((entry.because (reason.getD "Restock")).byOperator operator))
  return after

/-- Corrects the free pieces by a difference. -/
def adjustIn (product : ProductId) (delta : Int) (reason : Option String)
    (operator : Option OperatorId) : Call StockRecord := do
  let now ← now
  let current ← loadStock product
  let next ← obey (current.adjust delta now)
  replaceGuarded current next
  let entry := Entry.ofRecords .adjust delta current next now
  within (.appendEntry ((entry.because (reason.getD "Manual adjustment")).byOperator operator))
  return next

/-! ## Movements -/

def reserve (settings : StockSettings) (product : ProductId) (quantity : Int) (order : OrderId)
    (ttl : Option Span) : Call StockRecord :=
  inUnit component (reserveIn product quantity order (ttl.getD settings.reservationTtl))

def release (product : ProductId) (quantity : Int) (order : OrderId) (target : ReleaseTarget) :
    Call StockRecord :=
  inUnit component (releaseIn product quantity order target)

def deduct (product : ProductId) (quantity : Int) (order : OrderId) : Call StockRecord :=
  inUnit component (deductIn product quantity order)

def restock (product : ProductId) (quantity : Int) (reason : Option String)
    (operator : Option OperatorId) : Call StockRecord := do
  obey (ensurePositive quantity)
  let record ← inUnit component (restockIn product quantity reason operator)
  report .info "入荷を登録しました" (movementContext product none quantity record) none
  return record

def adjust (product : ProductId) (delta : Int) (reason : Option String)
    (operator : Option OperatorId) : Call StockRecord := do
  let record ← inUnit component (adjustIn product delta reason operator)
  report .info "在庫を調整しました"
    [ ("product_id", toString product),
      ("delta", toString delta),
      ("available", toString record.available),
      ("version", toString record.version) ] none
  return record

/-! ## Records of stock -/

/-- Enters a product into the stockroom. -/
def register (product : ProductId) (stock threshold : Int) : Call StockRecord := do
  let record ← obey (StockRecord.register product stock threshold (← now))
  if (← demand (.stockOf product)).isSome then
    throw (.alreadyExists (.stock product))
  demand (.createStock record)
  report .info "在庫を登録しました"
    [("product_id", toString product), ("initial_stock", toString stock)] none
  return record

def stockOf (product : ProductId) : Call StockRecord := do
  match ← demand (.stockOf product) with
  | some record => return record
  | none => throw (.notFound (.stock product))

def listStock (page : PageRequest) : Call (Page StockRecord) := demand (.listStock page)

def listLowStock (page : PageRequest) : Call (Page StockRecord) := demand (.listLowStock page)

def setThreshold (product : ProductId) (threshold : Int) : Call StockRecord := do
  let current ← stockOf product
  let updated ← obey (current.withThreshold threshold (← now))
  insist (demand (.setThreshold product threshold updated.updatedAt)) (.notFound (.stock product))
  return updated

/-- Takes a product out of the stockroom for good. -/
def remove (product : ProductId) : Call Unit := do
  let now ← now
  insist (demand (.removeStock product now)) (.notFound (.stock product))
  report .info "在庫を削除しました" [("product_id", toString product)] none

def entriesOf (product : ProductId) (page : PageRequest) : Call (Page Entry) :=
  demand (.entriesOf product page)

def reservationsOf (order : OrderId) : Call (List Reservation) :=
  demand (.reservationsOf order)

/-! ## Availability -/

/-- Whether a quantity of a product could be reserved. -/
structure Availability where
  product : ProductId
  available : Int
  reserved : Int
  requested : Int
  isAvailable : Bool
deriving DecidableEq, Repr

def checkAvailability (line : OrderLine) : Call Availability := do
  obey (ensurePositive line.quantity)
  let record ← stockOf line.product
  return ⟨line.product, record.available, record.reserved, line.quantity,
    record.covers line.quantity⟩

/-- Checks one product after the other; the answers need not belong to one moment. -/
def checkAll (lines : List OrderLine) : Call (List Availability) :=
  lines.mapM checkAvailability

/-! ## Expired reservations -/

/-- How many expired reservations one cleanup took, and what became of them. -/
structure CleanupReport where
  scanned : Nat
  released : Nat
  failed : Nat
deriving DecidableEq, Repr

/-- Releases one expired reservation in a unit of work of its own and says whether that succeeded.  A
failure is only reported, and the next cleanup tries again. -/
def releaseExpired (correlation : CorrelationId) (reservation : Reservation) : Call Bool := do
  let outcome ← ExceptT.lift
    (release reservation.product reservation.quantity reservation.order .expired).run
  match outcome with
  | .ok _ => return true
  | .error error =>
    report .warn "期限切れ予約の解放に失敗しました"
      [ ("product_id", toString reservation.product),
        ("order_id", toString reservation.order),
        ("error", error.message) ] correlation
    return false

/-- **Releases expired reservations**, the longest expired first, at most a batch of them. -/
def cleanup (settings : StockSettings) : Call CleanupReport := do
  let correlation ← freshId
  let expired ← demand (.expiredReservations (← now) settings.cleanupBatch)
  let outcomes ← expired.mapM (releaseExpired correlation)
  let released := outcomes.count true
  let summary : CleanupReport := ⟨expired.length, released, outcomes.length - released⟩
  if summary.scanned > 0 then
    report .info "期限切れ予約の回収が完了しました"
      [ ("scanned", toString summary.scanned),
        ("released", toString summary.released),
        ("failed", toString summary.failed) ] correlation
  return summary

end Stockroom.StockService
