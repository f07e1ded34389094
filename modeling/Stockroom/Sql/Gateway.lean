import Stockroom.Sql.Link
import Stockroom.Sql.Mapping
import Stockroom.Store.Table

/-!
# Sql/Gateway — a store that keeps its data in a database

`Gateway.answer` turns every request to the store into statements and makes an answer of what they
bring back.  `Gateway.connected` runs a whole program of the service in this way.

Conditional writes are single statements whose conditions are part of them, so a write that comes too
late changes no row.
-/

namespace Stockroom.Sql

namespace Gateway

open Access
open Value (ofId)

/-! ## Stock -/

/-- The row of a product that is still in the stockroom. -/
def liveStock (product : ProductId) : List Condition :=
  [.equals "product_id" (ofId product), .isNull "deleted_at"]

def findStock (product : ProductId) : Access (Option StockRecord) := do
  let found ← rows "在庫の取得に失敗しました"
    (.select Reading.stockColumns "inventories" (liveStock product) [] .all)
  understand (found.head?.mapM Reading.stock)

def replaceStock (next : StockRecord) (expectedVersion : Int) : Access Bool :=
  changesOne "在庫の更新に失敗しました" <|
    .update "inventories"
      [ .replace "available_stock" (.int next.available),
        .replace "reserved_stock" (.int next.reserved),
        .replace "version" (.int next.version),
        .replace "updated_at" (.time next.updatedAt) ]
      [ .equals "product_id" (ofId next.product),
        .equals "version" (.int expectedVersion),
        .isNull "deleted_at" ]

def increaseStock (product : ProductId) (quantity : Int) (now : Instant) : Access Bool :=
  changesOne "在庫の加算に失敗しました" <|
    .update "inventories"
      [ .increase "available_stock" (.int quantity),
        .succeed "version",
        .replace "updated_at" (.time now) ]
      (liveStock product)

def createStock (record : StockRecord) : Access Unit := do
  let _ ← alone execute "在庫の登録に失敗しました" <|
    .insert "inventories"
      [ ("product_id", ofId record.product),
        ("available_stock", .int record.available),
        ("reserved_stock", .int record.reserved),
        ("low_stock_threshold", .int record.threshold),
        ("version", .int record.version),
        ("created_at", .time record.createdAt),
        ("updated_at", .time record.updatedAt) ]

/-- A page of stock records, and how many there are in all. -/
def stockPage (conditions : List Condition) (sortings : List Sorting) (page : PageRequest) :
    Access (Page StockRecord) := do
  let counting := "在庫件数の取得に失敗しました"
  connect counting
  let total ← count counting "inventories" conditions
  let found ← rows "在庫一覧の取得に失敗しました"
    (.select Reading.stockColumns "inventories" conditions sortings
      (.slice page.limit page.offset))
  return .of (← understand (found.mapM Reading.stock)) total page

def listStock : PageRequest → Access (Page StockRecord) :=
  stockPage [.isNull "deleted_at"] [.ascending "product_id"]

def listLowStock : PageRequest → Access (Page StockRecord) :=
  stockPage [.isNull "deleted_at", .atMost "available_stock" "low_stock_threshold"]
    [.ascending "available_stock", .ascending "product_id"]

def setThreshold (product : ProductId) (threshold : Int) (now : Instant) : Access Bool :=
  alone changesOne "しきい値の更新に失敗しました" <|
    .update "inventories"
      [ .replace "low_stock_threshold" (.int threshold),
        .replace "updated_at" (.time now) ]
      (liveStock product)

def removeStock (product : ProductId) (now : Instant) : Access Bool :=
  alone changesOne "在庫の削除に失敗しました" <|
    .update "inventories"
      [ .replace "deleted_at" (.time now),
        .replace "updated_at" (.time now) ]
      (liveStock product)

/-! ## Reservations -/

def insertReservation (reservation : Reservation) : Access Unit := do
  let _ ← execute "予約の登録に失敗しました" <|
    .insert "inventory_reservations"
      [ ("product_id", ofId reservation.product),
        ("order_id", ofId reservation.order),
        ("quantity", .int reservation.quantity),
        ("status", .text reservation.status.text),
        ("expires_at", .time reservation.expiresAt),
        ("created_at", .time reservation.createdAt),
        ("updated_at", .time reservation.updatedAt) ]

def findReservation (product : ProductId) (order : OrderId) : Access (Option Reservation) := do
  let found ← rows "予約の取得に失敗しました"
    (.select Reading.reservationColumns "inventory_reservations"
      [.equals "product_id" (ofId product), .equals "order_id" (ofId order)] [] .all)
  understand (found.head?.mapM Reading.reservation)

def moveReservation (product : ProductId) (order : OrderId) (expected next : ReservationStatus)
    (now : Instant) : Access Bool :=
  changesOne "予約ステータスの更新に失敗しました" <|
    .update "inventory_reservations"
      [ .replace "status" (.text next.text),
        .replace "updated_at" (.time now) ]
      [ .equals "product_id" (ofId product),
        .equals "order_id" (ofId order),
        .equals "status" (.text expected.text) ]

def expiredReservations (now : Instant) (limit : Nat) : Access (List Reservation) := do
  let found ← alone rows "期限切れ予約の取得に失敗しました"
    (.select Reading.reservationColumns "inventory_reservations"
      [ .equals "status" (.text ReservationStatus.active.text),
        .before "expires_at" (.time now) ]
      [.ascending "expires_at"] (.first limit))
  understand (found.mapM Reading.reservation)

def reservationsOf (order : OrderId) : Access (List Reservation) := do
  let found ← alone rows "注文の予約の取得に失敗しました"
    (.select Reading.reservationColumns "inventory_reservations"
      [.equals "order_id" (ofId order)] [.ascending "product_id"] .all)
  understand (found.mapM Reading.reservation)

/-! ## The ledger -/

def appendEntry (entry : Entry) : Access Unit := do
  let _ ← execute "在庫ログの登録に失敗しました" <|
    .insert "inventory_logs"
      [ ("product_id", ofId entry.product),
        ("order_id", .ofOption ofId entry.order),
        ("change_type", .text entry.kind.text),
        ("quantity_change", .int entry.change),
        ("before_available", .int entry.before.available),
        ("after_available", .int entry.after.available),
        ("before_reserved", .int entry.before.reserved),
        ("after_reserved", .int entry.after.reserved),
        ("reason", .ofOption .text entry.reason),
        ("operator_id", .ofOption ofId entry.operator),
        ("created_at", .time entry.createdAt) ]

def entriesOf (product : ProductId) (page : PageRequest) : Access (Page Entry) := do
  let counting := "在庫ログ件数の取得に失敗しました"
  let ofProduct : List Condition := [.equals "product_id" (ofId product)]
  connect counting
  let total ← count counting "inventory_logs" ofProduct
  let found ← rows "在庫ログの取得に失敗しました"
    (.select Reading.entryColumns "inventory_logs" ofProduct
      [.descending "created_at", .descending "id"] (.slice page.limit page.offset))
  return .of (← understand (found.mapM Reading.entry)) total page

/-! ## Orders -/

def insertItem (draft : Draft) (order : OrderId) (item : OrderItem) : Access Unit := do
  let _ ← execute "注文明細の登録に失敗しました" <|
    .insert "order_items"
      [ ("order_id", ofId order),
        ("product_id", ofId item.product),
        ("product_name", .text item.name),
        ("product_image", .ofOption .text item.image),
        ("quantity", .int item.quantity),
        ("unit_price", .int item.unitPrice.amount),
        ("total_price", .int item.totalPrice.amount),
        ("created_at", .time draft.createdAt) ]

/-- Inserts an order with its items; the database numbers it. -/
def insertOrder (draft : Draft) : Access Order := do
  let inserted ← execute "注文の登録に失敗しました" <|
    .insert "orders"
      [ ("order_no", .text draft.orderNo),
        ("user_id", ofId draft.user),
        ("total_amount", .int draft.total.amount),
        ("discount_amount", .int draft.discount.amount),
        ("shipping_fee", .int draft.shipping.amount),
        ("pay_amount", .int draft.pay.amount),
        ("status", .text OrderStatus.pending.text),
        ("receiver_name", .text draft.receiver.name),
        ("receiver_phone", .text draft.receiver.phone),
        ("receiver_address", .text draft.receiver.address),
        ("receiver_zip_code", .ofOption .text draft.receiver.zipCode),
        ("remark", .ofOption .text draft.remark),
        ("created_at", .time draft.createdAt),
        ("updated_at", .time draft.createdAt) ]
  let id : OrderId := ⟨Width.int64.wrap inserted.lastId⟩
  draft.items.forM (insertItem draft id)
  return draft.toOrder id

def itemsOf (order : OrderId) : Access (List OrderItem) := do
  let found ← rows "注文明細の取得に失敗しました"
    (.select Reading.itemColumns "order_items" [.equals "order_id" (ofId order)]
      [.ascending "id"] .all)
  understand (found.mapM Reading.item)

/-- The order of a row, with its items. -/
def withItems (row : Row) : Access Order := do
  let items ← itemsOf (← understand (Reading.orderId row))
  understand (Reading.order items row)

/-- The first order that meets a condition. -/
def firstOrder (operation : String) (condition : Condition) : Access (Option Order) := do
  let found ← rows operation (.select Reading.orderColumns "orders" [condition] [] .all)
  found.head?.mapM withItems

def findOrder (order : OrderId) : Access (Option Order) :=
  firstOrder "注文の取得に失敗しました" (.equals "id" (ofId order))

def replaceOrder (order : Order) (expected : OrderStatus) : Access Bool :=
  changesOne "注文ステータスの更新に失敗しました" <|
    .update "orders"
      [ .replace "status" (.text order.status.text),
        .replace "paid_at" (.ofOption .time order.timeline.paidAt),
        .replace "shipped_at" (.ofOption .time order.timeline.shippedAt),
        .replace "completed_at" (.ofOption .time order.timeline.completedAt),
        .replace "cancelled_at" (.ofOption .time order.timeline.cancelledAt),
        .replace "updated_at" (.time order.timeline.updatedAt) ]
      [ .equals "id" (ofId order.id),
        .equals "status" (.text expected.text) ]

/-- Takes the connection that several statements then share. -/
def connectFirst : Access Unit := connect "接続の取得に失敗しました"

def orderOf (order : OrderId) : Access (Option Order) := do
  connectFirst
  findOrder order

def orderByNumber (orderNo : String) : Access (Option Order) := do
  connectFirst
  firstOrder "注文番号による注文の取得に失敗しました" (.equals "order_no" (.text orderNo))

def ordersOf (user : UserId) (page : PageRequest) : Access (Page Order) := do
  connectFirst
  let ofUser : List Condition := [.equals "user_id" (ofId user)]
  let total ← count "注文件数の取得に失敗しました" "orders" ofUser
  let found ← rows "注文一覧の取得に失敗しました"
    (.select Reading.orderColumns "orders" ofUser
      [.descending "created_at", .descending "id"] (.slice page.limit page.offset))
  return .of (← found.mapM withItems) total page

/-! ## The catalogue -/

/-- The products with these numbers, by number.  Where a number comes back twice the later row
counts. -/
def productsOf (products : List ProductId) : Access (List Product) := do
  if products.isEmpty then return []
  let found ← alone rows "商品の取得に失敗しました"
    (.select Reading.productColumns "products" [.among "id" (products.map ofId)] [] .all)
  let products ← understand (found.mapM Reading.product)
  return (products.foldl (fun table product => table.insert product.id product)
    (Table.empty : Table ProductId Product)).values

/-! ## All requests -/

/-- The answers inside a transaction. -/
def answerWithin : (request : UnitRequest) → Access request.Result
  | .findStock product => findStock product
  | .replaceStock next expectedVersion => replaceStock next expectedVersion
  | .increaseStock product quantity now => increaseStock product quantity now
  | .insertReservation reservation => insertReservation reservation
  | .findReservation product order => findReservation product order
  | .moveReservation product order expected next now =>
    moveReservation product order expected next now
  | .appendEntry entry => appendEntry entry
  | .insertOrder draft => insertOrder draft
  | .findOrder order => findOrder order
  | .replaceOrder order expected => replaceOrder order expected

/-- **The answers of a store in a database.** -/
def answer : (request : StoreRequest) → Access request.Result
  | .begin => do
    let operation := "トランザクションの開始に失敗しました"
    connect operation
    Access.begin operation
  | .commit => Access.commit "コミットに失敗しました"
  | .rollback => Access.rollback "ロールバックに失敗しました"
  | .within request => answerWithin request
  | .createStock record => createStock record
  | .stockOf product => do
    connect "在庫の取得に失敗しました"
    findStock product
  | .listStock page => listStock page
  | .listLowStock page => listLowStock page
  | .setThreshold product threshold now => setThreshold product threshold now
  | .removeStock product now => removeStock product now
  | .entriesOf product page => entriesOf product page
  | .expiredReservations now limit => expiredReservations now limit
  | .reservationsOf order => reservationsOf order
  | .orderOf order => orderOf order
  | .orderByNumber orderNo => orderByNumber orderNo
  | .ordersOf user page => ordersOf user page
  | .productsOf products => productsOf products

/-- The answer to each request of the service. -/
def answered : (request : HostRequest) → Program Link request.Answer
  | .store request => (answer request).run
  | request => Program.request (I := Link) (.pass request)

/-- **A program of the service over a database.** -/
def connected {α : Type} (program : Program Host α) : Program Link α := program.through answered

end Gateway

end Stockroom.Sql
