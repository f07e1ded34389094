import Stockroom.Calendar.Stamp
import Stockroom.Money
import Stockroom.Text.Blank

/-!
# Order/Draft — an order before it has a number of its own

A `Draft` fixes the content of an order: its items with the prices of the moment, the amounts, and
who receives it.  `Draft.prepare` adds the amounts up; what is to be paid is the total and the
shipping fee without the discount.
-/

namespace Stockroom

/-- A product as the catalogue lists it. -/
structure Product where
  id : ProductId
  name : String
  price : Money
  image : Option String
deriving DecidableEq, Repr

/-- Who receives an order, and where. -/
structure Receiver where
  name : String
  phone : String
  address : String
  zipCode : Option String
deriving DecidableEq, Repr

namespace Receiver

/-- A field must not be blank and must not be longer than its greatest length. -/
def ensureLength (field : ReceiverField) (value : String) : Except Refusal Unit :=
  if Text.isBlank value then .error (.invalidValue (.missingField field))
  else if Text.innerLength value > field.maxLength then
    .error (.invalidValue (.longField field))
  else .ok ()

/-- A receiver with checked fields; a blank postal code counts as none. -/
def of (name phone address : String) (zipCode : Option String) : Except Refusal Receiver := do
  ensureLength .name name
  ensureLength .phone phone
  ensureLength .address address
  let zipCode := Text.nonBlank zipCode
  if let some zip := zipCode then ensureLength .zipCode zip
  return ⟨name, phone, address, zipCode⟩

end Receiver

/-- One product of an order, at the price of the moment. -/
structure OrderItem where
  product : ProductId
  name : String
  image : Option String
  quantity : Int
  unitPrice : Money
  totalPrice : Money
deriving DecidableEq, Repr

/-- The item for a quantity of a product. -/
def OrderItem.ofProduct (product : Product) (quantity : Int) : Except Refusal OrderItem := do
  ensurePositive quantity
  let totalPrice ← product.price.multiply quantity
  return ⟨product.id, product.name, product.image, quantity, product.price, totalPrice⟩

/-- The content of an order. -/
structure Draft where
  orderNo : String
  user : UserId
  items : List OrderItem
  total : Money
  discount : Money
  shipping : Money
  pay : Money
  receiver : Receiver
  remark : Option String
  createdAt : Instant
deriving DecidableEq, Repr

/-- **The number printed on an order**: `ORD`, the second of its creation, and the last three digits
of the nanosecond. -/
def orderNumber (now : Instant) : String :=
  String.ofList <|
    "ORD".toList ++ now.compactChars ++ Numeral.paddedChars 3 (now.subsecond % 1000)

namespace Draft

/-- The sum of the items. -/
def itemsTotal (items : List OrderItem) : Except Refusal Money :=
  items.foldlM (fun sum item => sum.add item.totalPrice) Money.zero

/-- The amount that is left after the discount. -/
def amountToPay (total discount shipping : Money) : Except Refusal Money := do
  let gross ← total.add shipping
  match Money.of (gross.subtract discount) with
  | .ok pay => return pay
  | .error _ => throw (.invalidValue (.discountTooLarge discount.amount))

/-- **A draft from its items**; no items at all are refused. -/
def prepare (user : UserId) (items : List OrderItem) (receiver : Receiver)
    (discount shipping : Money) (remark : Option String) (now : Instant) :
    Except Refusal Draft := do
  if items.isEmpty then throw (.invalidValue .noLines)
  let total ← itemsTotal items
  let pay ← amountToPay total discount shipping
  return {
    orderNo := orderNumber now
    user := user
    items := items
    total := total
    discount := discount
    shipping := shipping
    pay := pay
    receiver := receiver
    remark := Text.nonBlank remark
    createdAt := now }

end Draft

end Stockroom
