import Stockroom.Json.Value
import Stockroom.Service.Stock

/-!
# Web/View — what clients get to see

The JSON form of records, entries, reservations, orders and pages in the answers of the service.
-/

namespace Stockroom.Web.View

open Json (Value)

def id {kind : IdKind} (i : Id kind) : Value := .int i.value

def money (m : Money) : Value := .int m.amount

def time (t : Instant) : Value := .text t.rfc3339

def page {α : Type} (item : α → Value) (p : Page α) : Value :=
  .object [
    ("items", .ofList item p.items),
    ("total", .int p.total),
    ("page", .int p.page),
    ("page_size", .int p.size),
    ("total_pages", .int p.pages) ]

def stock (r : StockRecord) : Value :=
  .object [
    ("product_id", id r.product),
    ("available_stock", .int r.available),
    ("reserved_stock", .int r.reserved),
    ("total_stock", .int r.total),
    ("low_stock_threshold", .int r.threshold),
    ("is_low_stock", .bool r.isLow),
    ("version", .int r.version),
    ("updated_at", time r.updatedAt) ]

def reservation (r : Reservation) : Value :=
  .object [
    ("product_id", id r.product),
    ("order_id", id r.order),
    ("quantity", .int r.quantity),
    ("status", .text r.status.text),
    ("expires_at", time r.expiresAt),
    ("created_at", time r.createdAt) ]

def entry (e : Entry) : Value :=
  .object [
    ("id", .ofOption .int e.id),
    ("product_id", id e.product),
    ("order_id", .ofOption id e.order),
    ("change_type", .text e.kind.text),
    ("quantity_change", .int e.change),
    ("before_available", .int e.before.available),
    ("after_available", .int e.after.available),
    ("before_reserved", .int e.before.reserved),
    ("after_reserved", .int e.after.reserved),
    ("reason", .ofOption .text e.reason),
    ("operator_id", .ofOption id e.operator),
    ("created_at", time e.createdAt) ]

def availability (a : StockService.Availability) : Value :=
  .object [
    ("product_id", id a.product),
    ("available_stock", .int a.available),
    ("reserved_stock", .int a.reserved),
    ("requested", .int a.requested),
    ("is_available", .bool a.isAvailable) ]

def cleanup (r : StockService.CleanupReport) : Value :=
  .object [
    ("scanned", .int r.scanned),
    ("released", .int r.released),
    ("failed", .int r.failed) ]

def item (i : OrderItem) : Value :=
  .object [
    ("product_id", id i.product),
    ("product_name", .text i.name),
    ("product_image", .ofOption .text i.image),
    ("quantity", .int i.quantity),
    ("unit_price", money i.unitPrice),
    ("total_price", money i.totalPrice) ]

def receiver (r : Receiver) : Value :=
  .object [
    ("name", .text r.name),
    ("phone", .text r.phone),
    ("address", .text r.address),
    ("zip_code", .ofOption .text r.zipCode) ]

def order (o : Order) : Value :=
  .object [
    ("id", id o.id),
    ("order_no", .text o.draft.orderNo),
    ("user_id", id o.user),
    ("status", .text o.status.text),
    ("total_amount", money o.draft.total),
    ("discount_amount", money o.draft.discount),
    ("shipping_fee", money o.draft.shipping),
    ("pay_amount", money o.draft.pay),
    ("receiver", receiver o.draft.receiver),
    ("remark", .ofOption .text o.draft.remark),
    ("items", .ofList item o.items),
    ("paid_at", .ofOption time o.timeline.paidAt),
    ("shipped_at", .ofOption time o.timeline.shippedAt),
    ("completed_at", .ofOption time o.timeline.completedAt),
    ("cancelled_at", .ofOption time o.timeline.cancelledAt),
    ("created_at", time o.draft.createdAt),
    ("updated_at", time o.timeline.updatedAt) ]

/-- The answer to whoever asks whether the service is there. -/
def health : Value :=
  .object [
    ("status", .text "healthy"),
    ("service", .text "stock-reservation-service"),
    ("version", .text "0.1.0") ]

end Stockroom.Web.View
