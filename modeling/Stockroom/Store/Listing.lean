import Stockroom.Page
import Stockroom.Store.Tables

/-!
# Store/Listing — what can be looked up in a state of the store

Listings come in a fixed order: stock by product, low stock by the number of free pieces, ledger
entries from the newest, orders of a user from the newest, expired reservations from the longest
expired.
-/

namespace Stockroom.Store.Tables

/-- The live records, by product. -/
def liveRecords (t : Tables) : List StockRecord := t.stock.values.filterMap StockRow.live?

/-- The live records with low stock, the lowest first; equal ones stay in the order of products. -/
def lowRecords (t : Tables) : List StockRecord :=
  (t.liveRecords.filter StockRecord.isLow).mergeSort fun a b => a.available ≤ b.available

/-- The ledger of a product, from the newest entry. -/
def entriesOf (t : Tables) (product : ProductId) : List Entry :=
  t.entries.reverse.filter fun entry => entry.product = product

/-- Active reservations whose time is over, the longest expired first, at most `limit` of them. -/
def expiredReservations (t : Tables) (now : Instant) (limit : Nat) : List Reservation :=
  let expired := t.reservations.values.filter (·.isExpiredAt now)
  (expired.mergeSort fun a b => a.expiresAt ≤ b.expiresAt).take limit

def reservationsOf (t : Tables) (order : OrderId) : List Reservation :=
  t.reservations.values.filter fun reservation => reservation.order = order

/-- The order with this printed number; of several, the one with the lowest id. -/
def orderByNumber? (t : Tables) (orderNo : String) : Option Order :=
  t.orders.values.find? fun order => order.draft.orderNo = orderNo

/-- The orders of a user, from the newest; of orders of one moment the highest id is first. -/
def ordersOf (t : Tables) (user : UserId) : List Order :=
  (t.orders.values.filter (·.isOwnedBy user)).reverse.mergeSort
    fun a b => b.draft.createdAt ≤ a.draft.createdAt

/-- The products that are in the catalogue, each once. -/
def productsOf (t : Tables) (ids : List ProductId) : List Product :=
  ids.eraseDups.filterMap t.products.get?

end Stockroom.Store.Tables
