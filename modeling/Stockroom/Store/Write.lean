import Stockroom.Host.Error
import Stockroom.Store.Tables

/-!
# Store/Write — writes that carry their own conditions

A `Write` changes one row, or appends to the ledger.  Most writes are conditional, and the condition
is part of the write: `Write.apply` checks it against whatever state the write meets.  A unit of work
therefore can apply a write to its working copy first and to the committed state later.
-/

namespace Stockroom.Store

/-- One change of the store. -/
inductive Write where
  | replaceStock (next : StockRecord) (expectedVersion : Int)
  | increaseStock (product : ProductId) (quantity : Int) (now : Instant)
  | insertReservation (reservation : Reservation)
  | moveReservation (product : ProductId) (order : OrderId)
      (expected next : ReservationStatus) (now : Instant)
  | appendEntry (entry : Entry)
  | insertOrder (order : Order)
  | replaceOrder (order : Order) (expected : OrderStatus)
deriving DecidableEq, Repr

/-- The rows that a write can change. -/
inductive RowName where
  | stock (product : ProductId)
  | reservation (key : ReservationKey)
  | order (id : OrderId)
deriving DecidableEq, Repr

/-- The row that a write changes; the ledger has none. -/
def Write.row? : Write → Option RowName
  | replaceStock next _ => some (.stock next.product)
  | increaseStock product _ _ => some (.stock product)
  | insertReservation reservation => some (.reservation reservation.key)
  | moveReservation product order .. => some (.reservation ⟨product, order⟩)
  | appendEntry _ => none
  | insertOrder order => some (.order order.id)
  | replaceOrder order _ => some (.order order.id)

/-- Which condition of a write does not hold. -/
inductive Mismatch where
  | noStock (product : ProductId)
  | stockVersion (product : ProductId) (version expected : Int)
  | reservationStatus (product : ProductId) (order : OrderId) (expected : ReservationStatus)
  | orderStatus (order : OrderId) (expected : OrderStatus)
deriving DecidableEq, Repr

def Mismatch.message : Mismatch → String
  | noStock product => s!"商品 {product} の在庫が存在しません"
  | stockVersion product version expected =>
    s!"商品 {product} の在庫のバージョン {version} が期待値 {expected} と一致しません"
  | reservationStatus product order expected =>
    s!"予約 ({product}, {order}) は {expected} ではありません"
  | orderStatus order expected => s!"注文 {order} は {expected} ではありません"

/-- Why a write changes nothing. -/
inductive Rejection where
  | mismatch (mismatch : Mismatch)
  | failed (error : StoreError)
deriving DecidableEq, Repr

/-- A rule that refuses the new row makes the write fail. -/
def orFail {α : Type} : Except Refusal α → Except Rejection α
  | .ok value => .ok value
  | .error refusal => .error (.failed (.operationFailed refusal.message))

/-- **The state after a write**, if its condition holds there. -/
def Write.apply : Write → Tables → Except Rejection Tables
  | replaceStock next expectedVersion, t =>
    match t.liveStock? next.product with
    | none => .error (.mismatch (.noStock next.product))
    | some record =>
      if record.version = expectedVersion then .ok (t.putLive next.product next)
      else .error (.mismatch (.stockVersion next.product record.version expectedVersion))
  | increaseStock product quantity now, t =>
    match t.liveStock? product with
    | none => .error (.mismatch (.noStock product))
    | some record => t.putLive product <$> orFail (record.restock quantity now)
  | insertReservation reservation, t =>
    if t.reservations.contains reservation.key then
      .error (.failed (.uniqueViolation
        s!"商品 {reservation.product} の注文 {reservation.order} に対する予約は既に存在します"))
    else .ok (t.putReservation reservation)
  | moveReservation product order expected next now, t =>
    match (t.reservation? product order).filter fun r => r.status = expected with
    | none => .error (.mismatch (.reservationStatus product order expected))
    | some reservation => t.putReservation <$> orFail (reservation.moveTo next now)
  | appendEntry entry, t => .ok (t.append entry)
  | insertOrder order, t => .ok (t.putOrder order)
  | replaceOrder order expected, t =>
    match (t.order? order.id).filter fun o => o.status = expected with
    | none => .error (.mismatch (.orderStatus order.id expected))
    | some _ => .ok (t.putOrder order)

/-- The state after several writes, each of them applied to the state that the one before left. -/
def Write.applyAll (writes : List Write) (t : Tables) : Except Rejection Tables :=
  writes.foldlM (fun t write => write.apply t) t

theorem Write.applyAll_append (writes more : List Write) (t : Tables) :
    Write.applyAll (writes ++ more) t = Write.applyAll writes t >>= Write.applyAll more :=
  List.foldlM_append ..

end Stockroom.Store
