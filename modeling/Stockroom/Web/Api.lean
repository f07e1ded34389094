import Stockroom.Service.Orders
import Stockroom.Web.Body
import Stockroom.Web.MediaType
import Stockroom.Web.Query
import Stockroom.Web.Response
import Stockroom.Web.Route
import Stockroom.Web.View

/-!
# Web/Api — the service behind its addresses

`Api.handle` answers every request with a program: it finds the endpoint, takes from the request what
the endpoint needs, calls the service, and shows the result.  What an endpoint needs is taken in a
fixed order, and the first part that is missing or unusable decides the answer.
-/

namespace Stockroom.Web

open Json (Reader Value)

/-- A request. -/
structure Request where
  method : Method
  /-- The address with its query. -/
  target : String
  headers : List (String × String)
  body : String
deriving DecidableEq, Repr

namespace Request

/-- A character of the scheme of an address. -/
def isSchemeChar (c : Char) : Bool := c.isAlphanum || c = '+' || c = '-' || c = '.'

/-- The address without its fragment, and without the scheme and the host where it begins with
them. -/
def address (r : Request) : List Char :=
  let whole := r.target.toList.takeWhile (· ≠ '#')
  match whole.dropWhile isSchemeChar with
  | ':' :: '/' :: '/' :: rest =>
    let inside := rest.dropWhile fun c => c ≠ '/' && c ≠ '?'
    if inside.head? = some '/' then inside else '/' :: inside
  | _ => whole

def path (r : Request) : String := String.ofList (r.address.takeWhile (· ≠ '?'))

def query (r : Request) : String := String.ofList ((r.address.dropWhile (· ≠ '?')).drop 1)

/-- The value of a header; the case of its name does not matter. -/
def header? (r : Request) (name : String) : Option String :=
  (r.headers.find? fun (key, _) => key.map Char.toLower = name).map Prod.snd

/-- A header may hold visible ASCII characters, blanks and tabs. -/
def isVisible (s : String) : Bool :=
  s.toList.all fun c => c = '\t' || (0x20 ≤ c.toNat && c.toNat ≤ 0x7E)

/-- The number in a header, if the header holds one. -/
def headerNumber? (value : String) : Option Int :=
  if isVisible value then Numeral.read? .int64 (Text.trim value) else none

end Request

/-- Answers a request, early if something is wrong with it. -/
abbrev Handling (α : Type) := ExceptT Response (Program Host) α

namespace Api

variable {α β : Type}

/-! ## What a request brings -/

/-- An early answer for what is missing. -/
def orRespond (value : Option α) (response : Response) : Handling α :=
  match value with
  | some value => return value
  | none => throw response

/-- The decoded text of an open segment. -/
def textOf (name part : String) : Handling String :=
  orRespond (Percent.decode? part) (.unreadableText name)

/-- The number of an open segment. -/
def numberOf (name part : String) : Handling Int := do
  let text ← textOf name part
  orRespond (Numeral.read? .int64 text) (.unreadableNumber text)

def productOf (part : String) : Handling ProductId := return ⟨← numberOf "product_id" part⟩

def orderOf (part : String) : Handling OrderId := return ⟨← numberOf "order_id" part⟩

/-- The user on whose behalf a request is made. -/
def user (r : Request) : Handling UserId := do
  let value ← orRespond (r.header? "x-user-id") .missingUser
  return ⟨← orRespond (Request.headerNumber? value) .invalidUser⟩

/-- The operator who makes a request, if one is named. -/
def operator (r : Request) : Handling (Option OperatorId) := do
  match r.header? "x-operator-id" with
  | none => return none
  | some value =>
    return some ⟨← orRespond (Request.headerNumber? value) .invalidOperator⟩

/-- What a query asks for. -/
def query (r : Request) (read : String → Except Query.Fault α) : Handling α :=
  orRespond (read r.query).toOption .invalidQuery

/-- Whether a request announces a JSON body. -/
def announcesJson (r : Request) : Bool :=
  (r.header? "content-type").any fun value => Request.isVisible value && MediaType.isJson value

/-- The body of a request.  What follows the JSON value does not matter. -/
def body (r : Request) (read : Reader α) : Handling α := do
  unless announcesJson r do throw (.invalidBody .notAnnounced)
  match Json.decodeFront read r.body with
  | .ok value => return value
  | .error .malformed => throw (.invalidBody .malformed)
  | .error .mismatched => throw (.invalidBody .mismatched)

/-- The span in a body that asks for one; it has to be positive.  If no span is that long, the
request is left without an answer. -/
def ttl : Option Int → Handling (Option Span)
  | none => return none
  | some seconds =>
    if seconds ≤ 0 then throw .invalidTtl
    else some <$> ExceptT.lift (Program.ofOption (Span.ofSeconds? seconds))

/-- Calls the service. -/
def serve (call : Call α) : Handling α := ExceptT.mk (Except.mapError Response.ofError <$> call.run)

/-- A value that a business rule may refuse. -/
def obey (value : Except Refusal α) : Handling α := ExceptT.mk (pure (value.mapError .ofRefusal))

/-! ## Endpoints -/

/-- The order that a body asks for. -/
def orderRequest (user : UserId) (b : NewOrder) : Except Refusal OrderService.OrderRequest := do
  let receiver ← Receiver.of b.receiverName b.receiverPhone b.receiverAddress b.receiverZipCode
  let discount ← Money.of b.discount
  let shipping ← Money.of b.shipping
  return ⟨user, b.items, receiver, discount, shipping, b.remark⟩

/-- The stock of a product after a call. -/
def stockAfter (call : Call StockRecord) : Handling Response := do
  return .ok (View.stock (← serve call))

/-- An order after a call. -/
def orderAfter (call : Call Order) : Handling Response := do
  return .ok (View.order (← serve call))

/-- The answers of the endpoints; `part` stands in the open segment of the address, if it has one. -/
def respond (stock : StockSettings) (orders : OrderSettings) (r : Request) (part : String) :
    Endpoint → Handling Response
  | .health => return .ok View.health
  | .createStock => do
    let b ← body r NewStock.read
    let record ← serve (StockService.register b.product b.initialStock b.threshold)
    return .created (View.stock record)
  | .listStock => do
    let page ← serve (StockService.listStock (← query r Query.page))
    return .ok (View.page View.stock page)
  | .listLowStock => do
    let page ← serve (StockService.listLowStock (← query r Query.page))
    return .ok (View.page View.stock page)
  | .checkMany => do
    let b ← body r Inquiry.read
    return .ok (.ofList View.availability (← serve (StockService.checkAll b.items)))
  | .cleanup => return .ok (View.cleanup (← serve (StockService.cleanup stock)))
  | .stock => do stockAfter (StockService.stockOf (← productOf part))
  | .removeStock => do
    serve (StockService.remove (← productOf part))
    return .noContent
  | .setThreshold => do
    let product ← productOf part
    let b ← body r NewThreshold.read
    stockAfter (StockService.setThreshold product b.threshold)
  | .entries => do
    let product ← productOf part
    let page ← serve (StockService.entriesOf product (← query r Query.page))
    return .ok (View.page View.entry page)
  | .availability => do
    let product ← productOf part
    let quantity ← query r Query.quantity
    return .ok (View.availability (← serve (StockService.checkAvailability ⟨product, quantity⟩)))
  | .reserve => do
    let product ← productOf part
    let b ← body r Holding.read
    let ttl ← ttl b.ttlSeconds
    stockAfter (StockService.reserve stock product b.quantity b.order ttl)
  | .release => do
    let product ← productOf part
    let b ← body r Settlement.read
    stockAfter (StockService.release product b.quantity b.order .cancelled)
  | .deduct => do
    let product ← productOf part
    let b ← body r Settlement.read
    stockAfter (StockService.deduct product b.quantity b.order)
  | .restock => do
    let product ← productOf part
    let operator ← operator r
    let b ← body r Arrival.read
    stockAfter (StockService.restock product b.quantity b.reason operator)
  | .adjust => do
    let product ← productOf part
    let operator ← operator r
    let b ← body r Correction.read
    stockAfter (StockService.adjust product b.delta b.reason operator)
  | .createOrder => do
    let user ← user r
    let request ← obey (orderRequest user (← body r NewOrder.read))
    return .created (View.order (← serve (OrderService.create stock orders request)))
  | .listOrders => do
    let user ← user r
    let page ← serve (OrderService.ordersOf user (← query r Query.page))
    return .ok (View.page View.order page)
  | .orderByNumber => do
    let user ← user r
    orderAfter (OrderService.orderByNumber user (← textOf "order_no" part))
  | .order => do
    let user ← user r
    orderAfter (OrderService.orderOf user (← orderOf part))
  | .pay => do
    let user ← user r
    orderAfter (OrderService.pay user (← orderOf part))
  | .ship => do orderAfter (OrderService.ship (← orderOf part))
  | .complete => do orderAfter (OrderService.complete (← orderOf part))
  | .cancel => do
    let user ← user r
    orderAfter (OrderService.cancel user (← orderOf part))
  | .reservations => do
    let reservations ← serve (StockService.reservationsOf (← orderOf part))
    return .ok (.ofList View.reservation reservations)

/-- The answer with or without its body. -/
def sent (method : Method) (response : Response) : Response :=
  if method = .head then .empty response.status else response

/-- **Answers a request.** -/
def handle (stock : StockSettings) (orders : OrderSettings) (r : Request) :
    Program Host Response := do
  match Route.find? r.path with
  | none => return .notFound
  | some (route, opened) =>
    match route.endpoint? r.method with
    | none => return .methodNotAllowed
    | some endpoint =>
      match ← (respond stock orders r (opened.headD "") endpoint).run with
      | .ok response | .error response => return sent r.method response

end Api

end Stockroom.Web
