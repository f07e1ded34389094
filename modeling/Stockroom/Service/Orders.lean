import Stockroom.Service.Stock

/-!
# Service/Orders — calls that create and move orders

Creating an order looks the products up, checks the stock, and then writes the order and its
reservations in one unit of work.  An attempt that loses a race is repeated as a whole, at most
`OrderSettings.maxAttempts` times.  Paying and cancelling settle the reservations of the order in
the same unit of work that moves it.

Orders of other users are answered as if they did not exist.
-/

namespace Stockroom.OrderService

open Call

/-- The name under which these calls write log records. -/
def component : String := "OrderService"

def report (level : LogLevel) (message : String) (context : List (String × String))
    (correlation : Option CorrelationId) : Call Unit :=
  log ⟨level, component, message, correlation, some context⟩

/-- A request for an order. -/
structure OrderRequest where
  user : UserId
  lines : List OrderLine
  receiver : Receiver
  discount : Money
  shipping : Money
  remark : Option String
deriving DecidableEq, Repr

/-! ## Creating an order -/

/-- The item for a line, from the products that the catalogue lists. -/
def itemFor (products : List Product) (line : OrderLine) : Call OrderItem := do
  match products.find? fun product => product.id = line.product with
  | some product => obey (OrderItem.ofProduct product line.quantity)
  | none => throw (.notFound (.product line.product))

/-- The first line that the stock does not cover ends the call. -/
def ensureCovered (checks : List StockService.Availability) : Call Unit := do
  if let some short := checks.find? fun check => !check.isAvailable then
    throw (.refused (.insufficientStock short.product short.available short.requested))

/-- What an attempt does before it opens a unit of work. -/
def prepare (request : OrderRequest) (lines : List OrderLine) : Call Draft := do
  let products ← demand (.productsOf (lines.map OrderLine.product))
  let items ← lines.mapM (itemFor products)
  ensureCovered (← StockService.checkAll lines)
  obey (Draft.prepare request.user items request.receiver request.discount request.shipping
    request.remark (← now))

/-- Writes an order and reserves its items. -/
def placeIn (settings : StockSettings) (draft : Draft) : Call Order := do
  let order ← within (.insertOrder draft)
  order.items.forM fun item => do
    let _ ← StockService.reserveIn item.product item.quantity order.id settings.reservationTtl
  return order

/-- One attempt to create an order. -/
def tryCreate (settings : StockSettings) (request : OrderRequest) (lines : List OrderLine) :
    Call Order := do
  let draft ← prepare request lines
  inUnit component (placeIn settings draft)

/-- Makes the attempts `attempt`, `attempt + 1`, …, as long as they lose races and `remaining` is not
used up.  Every lost race is followed by a wait, the last one too. -/
def attemptFrom (tryOnce : Call Order) (user : UserId) (correlation : CorrelationId)
    (backoff : Nat) (attempt : Nat) (last : ServiceError) : (remaining : Nat) → Call Order
  | 0 => do
    report .error "注文作成の再試行が上限に達しました"
      [("user_id", toString user), ("attempts", toString (attempt - 1))] correlation
    throw (.retriesExhausted (attempt - 1) last)
  | remaining + 1 => do
    match ← ExceptT.lift tryOnce.run with
    | .ok order =>
      report .info "注文を作成しました"
        [ ("order_id", toString order.id),
          ("order_no", order.draft.orderNo),
          ("user_id", toString user),
          ("attempt", toString attempt) ] correlation
      return order
    | .error error =>
      unless error.isRetryable do throw error
      report .warn "在庫の競合により注文作成を再試行します"
        [ ("user_id", toString user),
          ("attempt", toString attempt),
          ("error", error.message) ] correlation
      sleep (backoff * attempt)
      attemptFrom tryOnce user correlation backoff (attempt + 1) error remaining

/-- What is reported as the last error of no attempt at all; `create` makes at least one. -/
def neverTried : ServiceError :=
  .concurrentUpdate (.stated "注文作成が一度も試行されませんでした")

/-- **Creates an order.** -/
def create (stock : StockSettings) (settings : OrderSettings) (request : OrderRequest) :
    Call Order := do
  let correlation ← freshId
  let lines ← obey (OrderLine.merge request.lines)
  attemptFrom (tryCreate stock request lines) request.user correlation settings.backoff 1
    neverTried (max settings.maxAttempts 1)

/-! ## Moving an order -/

/-- The order with this number, if it belongs to the owner; with no owner given it may be anybody's. -/
def loadOrder (id : OrderId) (owner : Option UserId) : Call Order := do
  match ← within (.findOrder id) with
  | some order =>
    unless owner.all order.isOwnedBy do throw (.notFound (.order id))
    return order
  | none => throw (.notFound (.order id))

/-- Writes an order back unless somebody else has moved it. -/
def saveMove (order : Order) (expected : OrderStatus) : Call Unit :=
  insist (within (.replaceOrder order expected)) (.concurrentUpdate (.order order.id expected))

def reportMove (order : Order) (message : String) : Call Unit :=
  report .info message
    [("order_id", toString order.id), ("status", toString order.status)] none

def payIn (user : UserId) (id : OrderId) : Call Order := do
  let order ← loadOrder id user
  let paid ← obey (order.pay (← now))
  paid.items.forM fun item => do
    let _ ← StockService.deductIn item.product item.quantity paid.id
  saveMove paid order.status
  return paid

/-- Pays an order: its reserved stock leaves the stockroom. -/
def pay (user : UserId) (id : OrderId) : Call Order := do
  let order ← inUnit component (payIn user id)
  reportMove order "注文の支払いを確定しました"
  return order

/-- Moves an order without touching stock. -/
def moveIn (id : OrderId) (move : Order → Except Refusal Order) : Call Order := do
  let order ← loadOrder id none
  let moved ← obey (move order)
  saveMove moved order.status
  return moved

def ship (id : OrderId) : Call Order := do
  let now ← now
  let order ← inUnit component (moveIn id (·.ship now))
  reportMove order "注文を発送済みにしました"
  return order

def complete (id : OrderId) : Call Order := do
  let now ← now
  let order ← inUnit component (moveIn id (·.complete now))
  reportMove order "注文を完了にしました"
  return order

/-- Gives the stock of one item back, unless its reservation has already expired. -/
def releaseItem (order : OrderId) (item : OrderItem) : Call Unit := do
  let reservation ← within (.findReservation item.product order)
  if Option.map Reservation.status reservation = some .expired then
    report .debug "期限切れで解放済みの予約をスキップしました"
      [("order_id", toString order), ("product_id", toString item.product)] none
  else
    let _ ← StockService.releaseIn item.product item.quantity order .cancelled

def cancelIn (user : UserId) (id : OrderId) : Call Order := do
  let order ← loadOrder id user
  let cancelled ← obey (order.cancel (← now))
  cancelled.items.forM (releaseItem cancelled.id)
  saveMove cancelled order.status
  return cancelled

/-- Cancels an order: its reserved stock becomes free. -/
def cancel (user : UserId) (id : OrderId) : Call Order := do
  let order ← inUnit component (cancelIn user id)
  reportMove order "注文をキャンセルしました"
  return order

/-! ## Looking orders up -/

/-- An order of the user, or nothing. -/
def ownedBy (user : UserId) (order : Option Order) (subject : Subject) : Call Order := do
  match order.filter (·.isOwnedBy user) with
  | some order => return order
  | none => throw (.notFound subject)

def orderOf (user : UserId) (id : OrderId) : Call Order := do
  ownedBy user (← demand (.orderOf id)) (.order id)

def orderByNumber (user : UserId) (orderNo : String) : Call Order := do
  ownedBy user (← demand (.orderByNumber orderNo)) (.orderNumber orderNo)

def ordersOf (user : UserId) (page : PageRequest) : Call (Page Order) :=
  demand (.ordersOf user page)

end Stockroom.OrderService
