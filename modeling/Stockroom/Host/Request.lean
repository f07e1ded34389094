import Stockroom.Logging.Record
import Stockroom.Order.Lifecycle
import Stockroom.Page
import Stockroom.Host.Error
import Stockroom.Program
import Stockroom.Stock.Entry
import Stockroom.Stock.Reservation

/-!
# Host/Request — what the service asks of its surroundings

The service reaches its surroundings through the interface `Host`.  A `UnitRequest` is made inside
the unit of work that the call holds open; a `StoreRequest` opens or ends that unit, or reads and
writes outside of it.  Every request to the store may fail with a `StoreError`.  The remaining
requests read the clock, draw a correlation id, write a log record, or wait.

A conditional write answers whether its condition held.
-/

namespace Stockroom

/-- Requests inside an open unit of work. -/
inductive UnitRequest where
  | findStock (product : ProductId)
  /-- Replaces a record if its version is still the expected one. -/
  | replaceStock (next : StockRecord) (expectedVersion : Int)
  /-- Adds to the free pieces whatever their number is by then. -/
  | increaseStock (product : ProductId) (quantity : Int) (now : Instant)
  | insertReservation (reservation : Reservation)
  | findReservation (product : ProductId) (order : OrderId)
  /-- Moves a reservation if its status is still the expected one. -/
  | moveReservation (product : ProductId) (order : OrderId)
      (expected next : ReservationStatus) (now : Instant)
  | appendEntry (entry : Entry)
  | insertOrder (draft : Draft)
  | findOrder (order : OrderId)
  /-- Replaces an order if its status is still the expected one. -/
  | replaceOrder (order : Order) (expected : OrderStatus)
deriving DecidableEq, Repr

/-- What a request inside a unit of work answers if it does not fail. -/
abbrev UnitRequest.Result : UnitRequest → Type
  | findStock _ => Option StockRecord
  | replaceStock .. => Bool
  | increaseStock .. => Bool
  | insertReservation _ => Unit
  | findReservation .. => Option Reservation
  | moveReservation .. => Bool
  | appendEntry _ => Unit
  | insertOrder _ => Order
  | findOrder _ => Option Order
  | replaceOrder .. => Bool

/-- Requests to the store. -/
inductive StoreRequest where
  | begin
  | commit
  | rollback
  | within (request : UnitRequest)
  | createStock (record : StockRecord)
  | stockOf (product : ProductId)
  | listStock (page : PageRequest)
  | listLowStock (page : PageRequest)
  | setThreshold (product : ProductId) (threshold : Int) (now : Instant)
  | removeStock (product : ProductId) (now : Instant)
  | entriesOf (product : ProductId) (page : PageRequest)
  | expiredReservations (now : Instant) (limit : Nat)
  | reservationsOf (order : OrderId)
  | orderOf (order : OrderId)
  | orderByNumber (orderNo : String)
  | ordersOf (user : UserId) (page : PageRequest)
  | productsOf (products : List ProductId)
deriving DecidableEq, Repr

/-- What a request to the store answers if it does not fail. -/
abbrev StoreRequest.Result : StoreRequest → Type
  | begin | commit | rollback => Unit
  | within request => request.Result
  | createStock _ => Unit
  | stockOf _ => Option StockRecord
  | listStock _ | listLowStock _ => Page StockRecord
  | setThreshold .. | removeStock .. => Bool
  | entriesOf .. => Page Entry
  | expiredReservations .. | reservationsOf _ => List Reservation
  | orderOf _ | orderByNumber _ => Option Order
  | ordersOf .. => Page Order
  | productsOf _ => List Product

/-- Everything that the service can ask. -/
inductive HostRequest where
  | store (request : StoreRequest)
  | now
  | freshId
  | log (record : LogRecord)
  /-- Waits for this many milliseconds. -/
  | sleep (millis : Nat)
deriving DecidableEq, Repr

/-- What the service is answered. -/
def HostRequest.Answer : HostRequest → Type
  | store request => Except StoreError request.Result
  | now => Instant
  | freshId => CorrelationId
  | log _ | sleep _ => Unit

/-- **The interface between the service and its surroundings.** -/
def Host : Interface := ⟨HostRequest, HostRequest.Answer⟩

end Stockroom
