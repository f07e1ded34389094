import Stockroom.Order.Lifecycle
import Stockroom.Host.Error
import Stockroom.Sql.Statement
import Stockroom.Stock.Entry
import Stockroom.Stock.Reservation

/-!
# Sql/Mapping — rows and what they mean

Each kind of thing that the store keeps has a table; here is how a row of it is read.  The columns
are read in a fixed order, and the first that cannot be read, or that holds something impossible, is
reported as a `StoreError.fetchFailed`.
-/

namespace Stockroom.Sql

/-- Reads something from a row. -/
abbrev Reading (α : Type) := Row → Except StoreError α

namespace Reading

variable {α : Type}

/-- Reads a column; a failure is reported with the name of the column. -/
def column (read : Row → String → Except Failure α) (name : String) : Reading α := fun row =>
  (read row name).mapError fun failure =>
    .fetchFailed s!"列 {name} の取得に失敗しました: {failure.message}"

def int32 : String → Reading Int := column (Row.int .int32)
def int64 : String → Reading Int := column (Row.int .int64)
def text : String → Reading String := column Row.text
def time : String → Reading Instant := column Row.time
def text? : String → Reading (Option String) := column (Row.optional Row.text)
def time? : String → Reading (Option Instant) := column (Row.optional Row.time)

def id {kind : IdKind} (name : String) : Reading (Id kind) := fun row => Id.mk <$> int64 name row

def id? {kind : IdKind} (name : String) : Reading (Option (Id kind)) := fun row =>
  Option.map Id.mk <$> column (Row.optional (Row.int .int64)) name row

/-- A value that breaks a rule. -/
def obeying (subject : String) (value : Except Refusal α) : Except StoreError α :=
  value.mapError fun refusal => .fetchFailed s!"{subject}の解析に失敗しました: {refusal.message}"

def money (name : String) : Reading Money := fun row => do
  obeying "金額" (Money.of (← int64 name row))

/-! ## Stock -/

def stockColumns : List String :=
  ["product_id", "available_stock", "reserved_stock", "low_stock_threshold", "version",
    "created_at", "updated_at"]

def stock : Reading StockRecord := fun row => do
  return {
    product := ← id "product_id" row
    available := ← int32 "available_stock" row
    reserved := ← int32 "reserved_stock" row
    threshold := ← int32 "low_stock_threshold" row
    version := ← int64 "version" row
    createdAt := ← time "created_at" row
    updatedAt := ← time "updated_at" row }

def reservationColumns : List String :=
  ["product_id", "order_id", "quantity", "status", "expires_at", "created_at", "updated_at"]

def reservation : Reading Reservation := fun row => do
  let status ← obeying "予約ステータス" (ReservationStatus.ofText (← text "status" row))
  return {
    product := ← id "product_id" row
    order := ← id "order_id" row
    quantity := ← int32 "quantity" row
    status := status
    expiresAt := ← time "expires_at" row
    createdAt := ← time "created_at" row
    updatedAt := ← time "updated_at" row }

def entryColumns : List String :=
  ["id", "product_id", "order_id", "change_type", "quantity_change", "before_available",
    "after_available", "before_reserved", "after_reserved", "reason", "operator_id", "created_at"]

def entry : Reading Entry := fun row => do
  let kind ← obeying "変更種別" (ChangeKind.ofText (← text "change_type" row))
  let order ← id? "order_id" row
  let operator ← id? "operator_id" row
  let number ← int64 "id" row
  let product ← id "product_id" row
  let change ← int32 "quantity_change" row
  let before : Snapshot := ⟨← int32 "before_available" row, ← int32 "before_reserved" row⟩
  let after : Snapshot := ⟨← int32 "after_available" row, ← int32 "after_reserved" row⟩
  return {
    id := some number
    product := product
    order := order
    kind := kind
    change := change
    before := before
    after := after
    reason := ← text? "reason" row
    operator := operator
    createdAt := ← time "created_at" row }

/-! ## Orders -/

def itemColumns : List String :=
  ["product_id", "product_name", "product_image", "quantity", "unit_price", "total_price"]

def item : Reading OrderItem := fun row => do
  return {
    product := ← id "product_id" row
    name := ← text "product_name" row
    image := ← text? "product_image" row
    quantity := ← int32 "quantity" row
    unitPrice := ← money "unit_price" row
    totalPrice := ← money "total_price" row }

def orderColumns : List String :=
  ["id", "order_no", "user_id", "total_amount", "discount_amount", "shipping_fee", "pay_amount",
    "status", "receiver_name", "receiver_phone", "receiver_address", "receiver_zip_code", "remark",
    "paid_at", "shipped_at", "completed_at", "cancelled_at", "created_at", "updated_at"]

/-- The number of an order, which its items are looked up by. -/
def orderId : Reading OrderId := fun row =>
  (Id.mk <$> Row.int .int64 row "id").mapError fun failure =>
    .fetchFailed s!"注文IDの取得に失敗しました: {failure.message}"

def receiver : Reading Receiver := fun row => do
  let name ← text "receiver_name" row
  let phone ← text "receiver_phone" row
  let address ← text "receiver_address" row
  let zipCode ← text? "receiver_zip_code" row
  obeying "受取人情報" (Receiver.of name phone address zipCode)

/-- An order with items that are already read. -/
def order (items : List OrderItem) : Reading Order := fun row => do
  let status ← obeying "注文ステータス" (OrderStatus.ofText (← text "status" row))
  let receiver ← receiver row
  let createdAt ← time "created_at" row
  let draft : Draft := {
    orderNo := ← text "order_no" row
    user := ← id "user_id" row
    items := items
    total := ← money "total_amount" row
    discount := ← money "discount_amount" row
    shipping := ← money "shipping_fee" row
    pay := ← money "pay_amount" row
    receiver := receiver
    remark := ← text? "remark" row
    createdAt := createdAt }
  let timeline : Timeline := {
    paidAt := ← time? "paid_at" row
    shippedAt := ← time? "shipped_at" row
    completedAt := ← time? "completed_at" row
    cancelledAt := ← time? "cancelled_at" row
    updatedAt := ← time "updated_at" row }
  return ⟨← id "id" row, draft, status, timeline⟩

/-! ## Products -/

def productColumns : List String := ["id", "name", "price", "main_image"]

/-- Reads a column of the catalogue. -/
def productColumn (read : Row → String → Except Failure α) (name : String) : Reading α := fun row =>
  (read row name).mapError fun failure =>
    .fetchFailed s!"商品データの解析に失敗しました: {failure.message}"

def product : Reading Product := fun row => do
  let id ← productColumn (Row.int .int64) "id" row
  let price ← productColumn (Row.int .int64) "price" row
  let price ← (Money.of price).mapError fun refusal => .fetchFailed refusal.message
  return {
    id := ⟨id⟩
    name := ← productColumn Row.text "name" row
    price := price
    image := ← productColumn (Row.optional Row.text) "main_image" row }

end Reading

end Stockroom.Sql
