import Stockroom.Json.Decode
import Stockroom.Json.Value
import Stockroom.Order.Line

/-!
# Web/Body — what clients send

One structure for each kind of request body, with the reader that takes it from JSON and the value
that writes it back.  Bodies hold plain numbers and texts: whether they make sense is for the service
to say.
-/

namespace Stockroom.Web

open Json (Reader Field Fields Value)

/-- A product to enter into the stockroom. -/
structure NewStock where
  product : ProductId
  initialStock : Int
  threshold : Int
deriving DecidableEq, Repr

namespace NewStock

def read : Reader NewStock :=
  (fun (product, stock, threshold, ()) => ⟨⟨product⟩, stock, threshold⟩) <$>
    (Fields.cons (.required "product_id" (.int .int64)) <|
      .cons (.required "initial_stock" (.int .int32)) <|
      .cons (.withDefault "low_stock_threshold" (.int .int32) 0) .nil).read

def toJson (b : NewStock) : Value :=
  .object [
    ("product_id", .int b.product.value),
    ("initial_stock", .int b.initialStock),
    ("low_stock_threshold", .int b.threshold) ]

end NewStock

/-- Another threshold for a product. -/
structure NewThreshold where
  threshold : Int
deriving DecidableEq, Repr

namespace NewThreshold

def read : Reader NewThreshold :=
  (fun (threshold, ()) => ⟨threshold⟩) <$>
    (Fields.cons (.required "low_stock_threshold" (.int .int32)) .nil).read

def toJson (b : NewThreshold) : Value := .object [("low_stock_threshold", .int b.threshold)]

end NewThreshold

/-- Pieces to hold for an order. -/
structure Holding where
  order : OrderId
  quantity : Int
  ttlSeconds : Option Int
deriving DecidableEq, Repr

namespace Holding

def read : Reader Holding :=
  (fun (order, quantity, ttlSeconds, ()) => ⟨⟨order⟩, quantity, ttlSeconds⟩) <$>
    (Fields.cons (.required "order_id" (.int .int64)) <|
      .cons (.required "quantity" (.int .int32)) <|
      .cons (.optional "ttl_seconds" (.int .int64)) .nil).read

def toJson (b : Holding) : Value :=
  .object [
    ("order_id", .int b.order.value),
    ("quantity", .int b.quantity),
    ("ttl_seconds", .ofOption .int b.ttlSeconds) ]

end Holding

/-- A reservation to release or to deduct. -/
structure Settlement where
  order : OrderId
  quantity : Int
deriving DecidableEq, Repr

namespace Settlement

def read : Reader Settlement :=
  (fun (order, quantity, ()) => ⟨⟨order⟩, quantity⟩) <$>
    (Fields.cons (.required "order_id" (.int .int64)) <|
      .cons (.required "quantity" (.int .int32)) .nil).read

def toJson (b : Settlement) : Value :=
  .object [("order_id", .int b.order.value), ("quantity", .int b.quantity)]

end Settlement

/-- Pieces that arrived. -/
structure Arrival where
  quantity : Int
  reason : Option String
deriving DecidableEq, Repr

namespace Arrival

def read : Reader Arrival :=
  (fun (quantity, reason, ()) => ⟨quantity, reason⟩) <$>
    (Fields.cons (.required "quantity" (.int .int32)) <|
      .cons (.optional "reason" .string) .nil).read

def toJson (b : Arrival) : Value :=
  .object [("quantity", .int b.quantity), ("reason", .ofOption .text b.reason)]

end Arrival

/-- A difference to correct a count by. -/
structure Correction where
  delta : Int
  reason : Option String
deriving DecidableEq, Repr

namespace Correction

def read : Reader Correction :=
  (fun (delta, reason, ()) => ⟨delta, reason⟩) <$>
    (Fields.cons (.required "delta" (.int .int32)) <|
      .cons (.optional "reason" .string) .nil).read

def toJson (b : Correction) : Value :=
  .object [("delta", .int b.delta), ("reason", .ofOption .text b.reason)]

end Correction

/-! ## Bodies with lines -/

/-- A quantity of a product. -/
def readLine : Reader OrderLine :=
  (fun (product, quantity, ()) => ⟨⟨product⟩, quantity⟩) <$>
    (Fields.cons (.required "product_id" (.int .int64)) <|
      .cons (.required "quantity" (.int .int32)) .nil).read

def lineToJson (line : OrderLine) : Value :=
  .object [("product_id", .int line.product.value), ("quantity", .int line.quantity)]

/-- Quantities to check. -/
structure Inquiry where
  items : List OrderLine
deriving DecidableEq, Repr

namespace Inquiry

def read : Reader Inquiry :=
  (fun (items, ()) => ⟨items⟩) <$>
    (Fields.cons (.required "items" (.list readLine)) .nil).read

def toJson (b : Inquiry) : Value := .object [("items", .ofList lineToJson b.items)]

end Inquiry

/-- An order to create. -/
structure NewOrder where
  items : List OrderLine
  receiverName : String
  receiverPhone : String
  receiverAddress : String
  receiverZipCode : Option String
  discount : Int
  shipping : Int
  remark : Option String
deriving DecidableEq, Repr

namespace NewOrder

def read : Reader NewOrder :=
  (fun (items, name, phone, address, zipCode, discount, shipping, remark, ()) =>
    ⟨items, name, phone, address, zipCode, discount, shipping, remark⟩) <$>
    (Fields.cons (.required "items" (.list readLine)) <|
      .cons (.required "receiver_name" .string) <|
      .cons (.required "receiver_phone" .string) <|
      .cons (.required "receiver_address" .string) <|
      .cons (.optional "receiver_zip_code" .string) <|
      .cons (.withDefault "discount_amount" (.int .int64) 0) <|
      .cons (.withDefault "shipping_fee" (.int .int64) 0) <|
      .cons (.optional "remark" .string) .nil).read

def toJson (b : NewOrder) : Value :=
  .object [
    ("items", .ofList lineToJson b.items),
    ("receiver_name", .text b.receiverName),
    ("receiver_phone", .text b.receiverPhone),
    ("receiver_address", .text b.receiverAddress),
    ("receiver_zip_code", .ofOption .text b.receiverZipCode),
    ("discount_amount", .int b.discount),
    ("shipping_fee", .int b.shipping),
    ("remark", .ofOption .text b.remark) ]

end NewOrder

end Stockroom.Web
