import Stockroom.Proofs.Dialogue.Audit
import Stockroom.Service.Orders

/-!
# Proofs/Dialogue/Transaction — the calls that work in one unit of work, and what they check

A `Transaction` is a call that opens one unit of work, or one attempt to create an order.  Whatever
such a call checks, it checks it right after an answer: **`Transaction.objection` says, from the
conversation so far, what is wrong with an answer**.  An answer may be a failure of the store, a
condition that did not hold, or a row that is missing, or a rule may refuse the row that was found.

`Transaction.mayAbort` says when a call is given up instead: when it has just replaced a record and the
reservation that comes next would end outside the calendar.
-/

namespace Stockroom

/-! ## What a conversation tells -/

/-- The refusal of a rule. -/
def refusal? {α : Type} : Except Refusal α → Option ServiceError
  | .ok _ => none
  | .error refusal => some (.refused refusal)

/-- The error of a check. -/
def error? {α : Type} : Except ServiceError α → Option ServiceError
  | .ok _ => none
  | .error error => some error

namespace Exchange

/-- A reading of the clock. -/
def time? : Exchange → Option Instant
  | ⟨.now, time⟩ => some time
  | _ => none

/-- The order that was found or written. -/
def order? : Exchange → Option Order
  | ⟨.store (.within (.findOrder _)), .ok found⟩ => found
  | ⟨.store (.within (.insertOrder _)), .ok order⟩ => some order
  | _ => none

/-- The products that the catalogue listed. -/
def products? : Exchange → Option (List Product)
  | ⟨.store (.productsOf _), .ok products⟩ => some products
  | _ => none

/-- The record that was found outside of a unit of work. -/
def stock? : Exchange → Option StockRecord
  | ⟨.store (.stockOf _), .ok found⟩ => found
  | _ => none

def isLog : Exchange → Bool
  | ⟨.log _, _⟩ => true
  | _ => false

def isBegin : Exchange → Bool
  | ⟨.store .begin, _⟩ => true
  | _ => false

def isIncrease : Exchange → Bool
  | ⟨.store (.within (.increaseStock ..)), _⟩ => true
  | _ => false

def isFindReservation : Exchange → Bool
  | ⟨.store (.within (.findReservation ..)), _⟩ => true
  | _ => false

/-- A record that was replaced. -/
def isReplacement : Exchange → Bool
  | ⟨.store (.within (.replaceStock ..)), .ok held⟩ => held
  | _ => false

end Exchange

namespace Talk

/-- The last reading of the clock. -/
def time? (past : Talk) : Option Instant := past.reverse.findSome? Exchange.time?

/-- The order that the conversation is about. -/
def order? (past : Talk) : Option Order := past.findSome? Exchange.order?

/-- The item of the order that is being moved: every item that is done with has left a log record. -/
def item? (past : Talk) : Option OrderItem :=
  (order? past).bind fun order => order.items[past.countP Exchange.isLog]?

/-- Whether a reservation was just looked up, and the clock read since. -/
def isSecondLook (past : Talk) : Bool :=
  match past.reverse with
  | ⟨.now, _⟩ :: x :: _ => x.isFindReservation
  | _ => false

end Talk

/-! ## Items and shortages -/

namespace OrderService

/-- The item for a line, or why there is none. -/
def quote (products : List Product) (line : OrderLine) : Except ServiceError OrderItem :=
  match products.find? fun product => product.id = line.product with
  | some product => (OrderItem.ofProduct product line.quantity).mapError .refused
  | none => .error (.notFound (.product line.product))

/-- The first line that its record does not cover. -/
def shortage? (lines : List OrderLine) (records : List StockRecord) : Option ServiceError :=
  ((lines.zip records).find? fun pair => !pair.2.covers pair.1.quantity).map fun pair =>
    .refused (.insufficientStock pair.1.product pair.2.available pair.1.quantity)

end OrderService

/-! ## Transactions -/

/-- **A call that works in one unit of work**; `place` is one attempt to create an order. -/
inductive Transaction where
  | reserve (settings : StockSettings) (product : ProductId) (quantity : Int) (order : OrderId)
      (ttl : Option Span)
  | release (product : ProductId) (quantity : Int) (order : OrderId) (target : ReleaseTarget)
  | deduct (product : ProductId) (quantity : Int) (order : OrderId)
  | restock (product : ProductId) (quantity : Int) (reason : Option String)
      (operator : Option OperatorId)
  | adjust (product : ProductId) (delta : Int) (reason : Option String)
      (operator : Option OperatorId)
  | pay (user : UserId) (order : OrderId)
  | ship (order : OrderId)
  | complete (order : OrderId)
  | cancel (user : UserId) (order : OrderId)
  | place (settings : StockSettings) (request : OrderService.OrderRequest) (lines : List OrderLine)

namespace Transaction

open OrderService

abbrev Result : Transaction → Type
  | reserve .. | release .. | deduct .. | restock .. | adjust .. => StockRecord
  | pay .. | ship _ | complete _ | cancel .. | place .. => Order

def program : (x : Transaction) → Call x.Result
  | reserve settings product quantity order ttl =>
    StockService.reserve settings product quantity order ttl
  | release product quantity order target => StockService.release product quantity order target
  | deduct product quantity order => StockService.deduct product quantity order
  | restock product quantity reason operator =>
    StockService.restock product quantity reason operator
  | adjust product delta reason operator => StockService.adjust product delta reason operator
  | pay user order => OrderService.pay user order
  | ship order => OrderService.ship order
  | complete order => OrderService.complete order
  | cancel user order => OrderService.cancel user order
  | place settings request lines => OrderService.tryCreate settings request lines

/-- Whose order it has to be. -/
def owner? : Transaction → Option UserId
  | pay user _ | cancel user _ => some user
  | _ => none

/-- A cancellation first looks whether a reservation has expired. -/
def looksTwice : Transaction → Bool
  | cancel .. => true
  | _ => false

/-! ### Rules -/

variable (x : Transaction) (past : Talk)

/-- The quantity for which a reservation has to be made. -/
def quantity? : Option Int :=
  match x with
  | release _ quantity .. | deduct _ quantity _ => some quantity
  | pay .. | cancel .. => (Talk.item? past).map OrderItem.quantity
  | _ => none

/-- **The rule for a record that is found.**  What a restock reads back is not checked. -/
def recordRule (record : StockRecord) : Option ServiceError :=
  (Talk.time? past).bind fun now =>
    match x with
    | reserve _ _ quantity .. => refusal? (record.reserve quantity now)
    | release _ quantity .. => refusal? (record.release quantity now)
    | deduct _ quantity _ => refusal? (record.deduct quantity now)
    | restock _ quantity .. =>
      if past.getLast?.any Exchange.isIncrease then none
      else refusal? (record.restock quantity now)
    | adjust _ delta .. => refusal? (record.adjust delta now)
    | pay .. => (Talk.item? past).bind fun item => refusal? (record.deduct item.quantity now)
    | cancel .. => (Talk.item? past).bind fun item => refusal? (record.release item.quantity now)
    | place .. => (Talk.item? past).bind fun item => refusal? (record.reserve item.quantity now)
    | ship _ | complete _ => none

/-- A reservation can be settled if it is there, active, and as large as it has to be. -/
def settlementRule (product : ProductId) (order : OrderId) (quantity : Int) :
    Option Reservation → Option ServiceError
  | none => some (.notFound (.reservation product order))
  | some reservation => refusal? (reservation.ensureSettleable quantity)

/-- **The rule for a reservation that is looked up.**  A first look that is followed by another one decides
nothing. -/
def reservationRule (product : ProductId) (order : OrderId) (found : Option Reservation) :
    Option ServiceError :=
  if x.looksTwice && !Talk.isSecondLook past then none
  else (x.quantity? past).bind fun quantity => settlementRule product order quantity found

/-- The rule for an order that is found: it belongs to whom it has to, and one that moves alone can
move. -/
def orderRule (id : OrderId) (order : Order) : Option ServiceError :=
  if x.owner?.all order.isOwnedBy then
    (Talk.time? past).bind fun now =>
      match x with
      | ship _ => refusal? (order.ship now)
      | complete _ => refusal? (order.complete now)
      | _ => none
  else some (.notFound (.order id))

/-- The rule for the time: an order that was just found can move at this time, and an order that is about
to be placed can be made up. -/
def timeRule (now : Instant) : Option ServiceError :=
  match x with
  | pay .. => (past.getLast?.bind Exchange.order?).bind fun order => refusal? (order.pay now)
  | cancel .. => (past.getLast?.bind Exchange.order?).bind fun order => refusal? (order.cancel now)
  | place _ request lines =>
    if past.any Exchange.isBegin then none
    else
      (past.findSome? Exchange.products?).bind fun products =>
        (lines.mapM (quote products)).toOption.bind fun items =>
          refusal? (Draft.prepare request.user items request.receiver request.discount
            request.shipping request.remark now)
  | _ => none

/-- The rule for the products that the catalogue lists. -/
def productsRule (products : List Product) : Option ServiceError :=
  match x with
  | place _ _ lines => error? (lines.mapM (quote products))
  | _ => none

/-- The rule for a record that is found outside of a unit of work: with the last one it shows whether all
lines are covered. -/
def stockRule (record : StockRecord) : Option ServiceError :=
  match x with
  | place _ _ lines =>
    let records := past.filterMap Exchange.stock? ++ [record]
    if records.length = lines.length then shortage? lines records else none
  | _ => none

/-! ### Objections -/

/-- What is wrong with an answer inside the unit of work. -/
def objectionWithin : (request : UnitRequest) → request.Result → Option ServiceError
  | .findStock product, none => some (.notFound (.stock product))
  | .findStock _, some record => x.recordRule past record
  | .replaceStock next expectedVersion, held =>
    if held then none else some (.concurrentUpdate (.stock next.product expectedVersion))
  | .increaseStock product _ _, held => if held then none else some (.notFound (.stock product))
  | .insertReservation _, _ => none
  | .findReservation product order, found => x.reservationRule past product order found
  | .moveReservation product order _ _ _, held =>
    if held then none else some (.concurrentUpdate (.reservation product order))
  | .appendEntry _, _ => none
  | .insertOrder _, _ => none
  | .findOrder id, none => some (.notFound (.order id))
  | .findOrder id, some order => x.orderRule past id order
  | .replaceOrder order expected, held =>
    if held then none else some (.concurrentUpdate (.order order.id expected))

/-- What is wrong with an answer of the store that is no failure. -/
def objectionTo : (request : StoreRequest) → request.Result → Option ServiceError
  | .within request, result => x.objectionWithin past request result
  | .productsOf _, products => x.productsRule products
  | .stockOf product, none => some (.notFound (.stock product))
  | .stockOf _, some record => x.stockRule past record
  | _, _ => none

/-- **What is wrong with an answer**: every failure of the store, and whatever a rule says. -/
def objection : Exchange → Option ServiceError
  | ⟨.store _, .error failure⟩ => some (.ofStore failure)
  | ⟨.store request, .ok result⟩ => x.objectionTo past request result
  | ⟨.now, now⟩ => x.timeRule past now
  | _ => none

/-- How long the reservations last that are made. -/
def ttl? : Transaction → Option Span
  | reserve settings _ _ _ ttl => some (ttl.getD settings.reservationTtl)
  | place settings .. => some settings.reservationTtl
  | _ => none

/-- **When a call may be given up**: a record was just replaced, and the reservation that comes next
would end outside the calendar. -/
def mayAbort : Prop :=
  past.getLast?.any Exchange.isReplacement ∧ ∃ ttl now, x.ttl? = some ttl ∧
    Talk.time? past = some now ∧ now.after? ttl = none

/-- The audit of a transaction. -/
def audit : Audit := ⟨x.objection, x.mayAbort⟩

end Transaction

end Stockroom
