import Stockroom.Order.Lifecycle
import Stockroom.Stock.Entry
import Stockroom.Stock.Reservation
import Stockroom.Store.Table

/-!
# Store/Tables — what a store holds

`Tables` is one state of the store: the stock of each product, reservations, orders, the catalogue,
and the ledger of stock movements from the oldest to the newest.  A product that was taken out of
the stockroom keeps its row, so that its number is not used again; only a live row is found.
-/

namespace Stockroom.Store

/-- The stock of a product, and when it was taken out of the stockroom. -/
structure StockRow where
  record : StockRecord
  removedAt : Option Instant
deriving DecidableEq, Repr

/-- The record of a row that is still in the stockroom. -/
def StockRow.live? (row : StockRow) : Option StockRecord :=
  if row.removedAt.isNone then some row.record else none

/-- One state of the store. -/
structure Tables where
  stock : Table ProductId StockRow
  reservations : Table ReservationKey Reservation
  entries : List Entry
  orders : Table OrderId Order
  products : Table ProductId Product
  lastEntryId : Int
deriving DecidableEq

namespace Tables

/-- The state of a new store. -/
def empty : Tables := ⟨.empty, .empty, [], .empty, .empty, 0⟩

/-- The live record of a product. -/
def liveStock? (t : Tables) (product : ProductId) : Option StockRecord :=
  (t.stock.get? product).bind StockRow.live?

/-- Writes the record of a product that is in the stockroom. -/
def putLive (t : Tables) (product : ProductId) (record : StockRecord) : Tables :=
  { t with stock := t.stock.insert product ⟨record, none⟩ }

def reservation? (t : Tables) (product : ProductId) (order : OrderId) : Option Reservation :=
  t.reservations.get? ⟨product, order⟩

def putReservation (t : Tables) (reservation : Reservation) : Tables :=
  { t with reservations := t.reservations.insert reservation.key reservation }

def order? (t : Tables) (id : OrderId) : Option Order := t.orders.get? id

def putOrder (t : Tables) (order : Order) : Tables :=
  { t with orders := t.orders.insert order.id order }

/-- Appends an entry to the ledger under the next number. -/
def append (t : Tables) (entry : Entry) : Tables :=
  { t with
    entries := t.entries ++ [entry.numbered (t.lastEntryId + 1)]
    lastEntryId := t.lastEntryId + 1 }

def putProduct (t : Tables) (product : Product) : Tables :=
  { t with products := t.products.insert product.id product }

/-- Whether no count of any row is negative. -/
def isConsistent (t : Tables) : Bool :=
  t.stock.values.all fun row => 0 ≤ row.record.available && 0 ≤ row.record.reserved

/-! ### What was put is found -/

variable (t : Tables)

theorem liveStock?_putLive (product other : ProductId) (record : StockRecord) :
    (t.putLive product record).liveStock? other =
      if other = product then some record else t.liveStock? other := by
  rw [liveStock?, putLive, Table.get?_insert]
  split <;> rfl

theorem reservation?_putReservation (reservation : Reservation) (product : ProductId) (order : OrderId) :
    (t.putReservation reservation).reservation? product order =
      if ⟨product, order⟩ = reservation.key then some reservation else t.reservation? product order :=
  Table.get?_insert ..

theorem order?_putOrder (order : Order) (id : OrderId) :
    (t.putOrder order).order? id = if id = order.id then some order else t.order? id := Table.get?_insert ..

end Tables

end Stockroom.Store
