import Stockroom.Service.Orders

/-!
# Proofs/Crowd/Call — the calls of the service as data

A `ServiceCall` names one call of the service with its arguments, and `ServiceCall.program` is the
program that runs for it.  Arguments are plain integers in the programs; `ServiceCall.Fits` is what
their widths promise.
-/

namespace Stockroom

/-- A call of the service. -/
inductive ServiceCall where
  | register (product : ProductId) (stock threshold : Int)
  | reserve (settings : StockSettings) (product : ProductId) (quantity : Int) (order : OrderId)
      (ttl : Option Span)
  | release (product : ProductId) (quantity : Int) (order : OrderId) (target : ReleaseTarget)
  | deduct (product : ProductId) (quantity : Int) (order : OrderId)
  | restock (product : ProductId) (quantity : Int) (reason : Option String)
      (operator : Option OperatorId)
  | adjust (product : ProductId) (delta : Int) (reason : Option String)
      (operator : Option OperatorId)
  | setThreshold (product : ProductId) (threshold : Int)
  | remove (product : ProductId)
  | cleanup (settings : StockSettings)
  | create (stock : StockSettings) (settings : OrderSettings)
      (request : OrderService.OrderRequest)
  | pay (user : UserId) (order : OrderId)
  | ship (order : OrderId)
  | complete (order : OrderId)
  | cancel (user : UserId) (order : OrderId)
  | stockOf (product : ProductId)
  | listStock (page : PageRequest)
  | listLowStock (page : PageRequest)
  | entriesOf (product : ProductId) (page : PageRequest)
  | reservationsOf (order : OrderId)
  | checkAll (lines : List OrderLine)
  | orderOf (user : UserId) (order : OrderId)
  | orderByNumber (user : UserId) (orderNo : String)
  | ordersOf (user : UserId) (page : PageRequest)

namespace ServiceCall

/-- What a call answers if it succeeds. -/
abbrev Result : ServiceCall → Type
  | register .. | reserve .. | release .. | deduct .. | restock .. | adjust .. => StockRecord
  | setThreshold .. | stockOf _ => StockRecord
  | remove _ => Unit
  | cleanup _ => StockService.CleanupReport
  | create .. | pay .. | ship _ | complete _ | cancel .. | orderOf .. | orderByNumber .. => Order
  | listStock _ | listLowStock _ => Page StockRecord
  | entriesOf .. => Page Entry
  | reservationsOf _ => List Reservation
  | checkAll _ => List StockService.Availability
  | ordersOf .. => Page Order

/-- **What runs for a call.** -/
def program : (call : ServiceCall) → Call call.Result
  | register product stock threshold => StockService.register product stock threshold
  | reserve settings product quantity order ttl =>
    StockService.reserve settings product quantity order ttl
  | release product quantity order target => StockService.release product quantity order target
  | deduct product quantity order => StockService.deduct product quantity order
  | restock product quantity reason operator =>
    StockService.restock product quantity reason operator
  | adjust product delta reason operator => StockService.adjust product delta reason operator
  | setThreshold product threshold => StockService.setThreshold product threshold
  | remove product => StockService.remove product
  | cleanup settings => StockService.cleanup settings
  | create stock settings request => OrderService.create stock settings request
  | pay user order => OrderService.pay user order
  | ship order => OrderService.ship order
  | complete order => OrderService.complete order
  | cancel user order => OrderService.cancel user order
  | stockOf product => StockService.stockOf product
  | listStock page => StockService.listStock page
  | listLowStock page => StockService.listLowStock page
  | entriesOf product page => StockService.entriesOf product page
  | reservationsOf order => StockService.reservationsOf order
  | checkAll lines => StockService.checkAll lines
  | orderOf user order => OrderService.orderOf user order
  | orderByNumber user orderNo => OrderService.orderByNumber user orderNo
  | ordersOf user page => OrderService.ordersOf user page

/-- Whether the numbers of a call have the 32 bits that a stock count or a quantity has. -/
def Fits : ServiceCall → Prop
  | register _ stock threshold => Width.int32.Fits stock ∧ Width.int32.Fits threshold
  | reserve _ _ quantity _ _ | release _ quantity _ _ | deduct _ quantity _ =>
    Width.int32.Fits quantity
  | restock _ quantity _ _ => Width.int32.Fits quantity
  | adjust _ delta _ _ => Width.int32.Fits delta
  | setThreshold _ threshold => Width.int32.Fits threshold
  | create _ _ request => ∀ line ∈ request.lines, Width.int32.Fits line.quantity
  | checkAll lines => ∀ line ∈ lines, Width.int32.Fits line.quantity
  | _ => True

end ServiceCall

end Stockroom
