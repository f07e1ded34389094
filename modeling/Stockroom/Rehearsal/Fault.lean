import Stockroom.Host.Request

/-!
# Rehearsal/Fault — trouble prepared in advance

A rehearsal runs the service against a store while things go wrong on purpose.  A `Fault` says at
which kind of request it strikes (`Site`), how often, and what happens then: the request fails, it
finds nothing, it is slow, or a competitor is faster.
-/

namespace Stockroom.Rehearsal

/-- The kinds of requests to the store. -/
inductive Site where
  | begin
  | commit
  | rollback
  | findStock
  | replaceStock
  | increaseStock
  | insertReservation
  | findReservation
  | moveReservation
  | appendEntry
  | insertOrder
  | findOrder
  | replaceOrder
  | createStock
  | stockOf
  | listStock
  | listLowStock
  | setThreshold
  | removeStock
  | entriesOf
  | expiredReservations
  | reservationsOf
  | orderOf
  | orderByNumber
  | ordersOf
  | productsOf
deriving DecidableEq, Repr

namespace Site

/-- All kinds of requests. -/
def all : List Site :=
  [begin, commit, rollback, findStock, replaceStock, increaseStock, insertReservation,
    findReservation, moveReservation, appendEntry, insertOrder, findOrder, replaceOrder,
    createStock, stockOf, listStock, listLowStock, setThreshold, removeStock, entriesOf,
    expiredReservations, reservationsOf, orderOf, orderByNumber, ordersOf, productsOf]

/-- The kind of a request inside a unit of work. -/
def ofUnit : UnitRequest → Site
  | .findStock _ => findStock
  | .replaceStock .. => replaceStock
  | .increaseStock .. => increaseStock
  | .insertReservation _ => insertReservation
  | .findReservation .. => findReservation
  | .moveReservation .. => moveReservation
  | .appendEntry _ => appendEntry
  | .insertOrder _ => insertOrder
  | .findOrder _ => findOrder
  | .replaceOrder .. => replaceOrder

/-- The kind of a request. -/
def of : StoreRequest → Site
  | .begin => begin
  | .commit => commit
  | .rollback => rollback
  | .within request => ofUnit request
  | .createStock _ => createStock
  | .stockOf _ => stockOf
  | .listStock _ => listStock
  | .listLowStock _ => listLowStock
  | .setThreshold .. => setThreshold
  | .removeStock .. => removeStock
  | .entriesOf .. => entriesOf
  | .expiredReservations .. => expiredReservations
  | .reservationsOf _ => reservationsOf
  | .orderOf _ => orderOf
  | .orderByNumber _ => orderByNumber
  | .ordersOf .. => ordersOf
  | .productsOf _ => productsOf

end Site

/-- The product that a request is about, if it is about one. -/
def productOf? : StoreRequest → Option ProductId
  | .within (.findStock product) => product
  | .within (.replaceStock next _) => next.product
  | .within (.increaseStock product _ _) => product
  | .within (.insertReservation reservation) => reservation.product
  | .within (.findReservation product _) => product
  | .within (.moveReservation product ..) => product
  | .within (.appendEntry entry) => entry.product
  | .createStock record => record.product
  | .stockOf product => product
  | .setThreshold product .. => product
  | .removeStock product _ => product
  | .entriesOf product _ => product
  | _ => none

/-- What a request answers when it finds nothing and changes nothing.  Requests for lists, and those
that open or end a unit of work, cannot miss. -/
def missed? : (request : StoreRequest) → Option request.Result
  | .within (.findStock _) => some (none : Option StockRecord)
  | .within (.replaceStock ..) => some false
  | .within (.increaseStock ..) => some false
  | .within (.insertReservation _) => some ()
  | .within (.findReservation ..) => some (none : Option Reservation)
  | .within (.moveReservation ..) => some false
  | .within (.appendEntry _) => some ()
  | .within (.findOrder _) => some (none : Option Order)
  | .within (.replaceOrder ..) => some false
  | .stockOf _ => some (none : Option StockRecord)
  | .setThreshold .. => some false
  | .removeStock .. => some false
  | .orderOf _ => some (none : Option Order)
  | .orderByNumber _ => some (none : Option Order)
  | _ => none

/-- Somebody else who changes the store first. -/
inductive Competitor where
  | increaseStock (product : ProductId) (quantity : Int)
  | removeStock (product : ProductId)
  | insertReservation (reservation : Reservation)
  | settleReservation (product : ProductId) (order : OrderId) (next : ReservationStatus)
  | moveOrder (order : OrderId) (move : OrderMove)
deriving DecidableEq, Repr

/-- What happens to a request. -/
inductive Trouble where
  | fail (error : StoreError)
  | miss
  | delay (millis : Nat)
  | race (competitor : Competitor)
deriving DecidableEq, Repr

/-- Trouble for requests of one kind. -/
structure Fault where
  site : Site
  /-- Strikes only requests about this product. -/
  product : Option ProductId
  /-- How many requests pass before the first is struck. -/
  skip : Nat
  /-- How many requests are struck; any number if nothing is given. -/
  times : Option Nat
  trouble : Trouble
deriving DecidableEq, Repr

namespace Fault

/-- Whether a fault is there for a request. -/
def matchesRequest (f : Fault) (request : StoreRequest) : Bool :=
  f.site = Site.of request && f.times != some 0 &&
    (f.product.isNone || f.product = productOf? request)

/-- The fault after it met a request, and the trouble that it makes. -/
def meet (f : Fault) : Fault × Option Trouble :=
  match f.skip with
  | skip + 1 => ({ f with skip := skip }, none)
  | 0 => ({ f with times := f.times.map (· - 1) }, some f.trouble)

/-- **The first fault that is there for a request decides.** -/
def consult (request : StoreRequest) : List Fault → List Fault × Option Trouble
  | [] => ([], none)
  | f :: rest =>
    if f.matchesRequest request then
      let (f, trouble) := f.meet
      (f :: rest, trouble)
    else
      let (rest, trouble) := consult request rest
      (f :: rest, trouble)

end Fault

end Stockroom.Rehearsal
