import Stockroom.Identifier
import Stockroom.Numeric.Width
import Stockroom.Order.Status
import Stockroom.Stock.Status

/-!
# Refusal — why a business rule turns a request down

A `Refusal` names its cause.  The five kinds are the ones that callers tell apart; a forbidden move
(`MoveFault`) and an unusable value (`ValueFault`) carry a finer cause.  The wording of every cause
is in the three `message` functions and nowhere else.
-/

namespace Stockroom

/-- The fields of a receiver that have a greatest length. -/
inductive ReceiverField where
  | name
  | phone
  | address
  | zipCode
deriving DecidableEq, Repr

namespace ReceiverField

def label : ReceiverField → String
  | name => "受取人氏名"
  | phone => "電話番号"
  | address => "住所"
  | zipCode => "郵便番号"

/-- The greatest number of characters, blanks at the ends not counted. -/
def maxLength : ReceiverField → Nat
  | name => 50
  | phone => 20
  | address => 500
  | zipCode => 20

end ReceiverField

/-- A move that the present state does not allow. -/
inductive MoveFault where
  | reservedTooSmall (product : ProductId) (reserved quantity : Int)
  | reservationNotActive (product : ProductId) (order : OrderId) (status : ReservationStatus)
  | reservationMove (status next : ReservationStatus)
  | orderMove (order : OrderId) (status next : OrderStatus)
  | orderClosed (order : OrderId) (status : OrderStatus)
  | orderPaid (order : OrderId)
  | stated (text : String)
deriving DecidableEq, Repr

def MoveFault.message : MoveFault → String
  | reservedTooSmall product reserved quantity =>
    s!"商品 {product} の予約数 {reserved} を超える数量 {quantity} は処理できません"
  | reservationNotActive product order status =>
    s!"予約 (商品 {product}, 注文 {order}) は {status} 状態のため処理できません"
  | reservationMove status next => s!"予約を {status} から {next} へ遷移できません"
  | orderMove order status next => s!"注文 {order} を {status} から {next} へ遷移できません"
  | orderClosed order status => s!"注文 {order} は {status} のためキャンセルできません"
  | orderPaid order => s!"注文 {order} は支払い済みのためキャンセルできません"
  | stated text => text

/-- A value that cannot be used. -/
inductive ValueFault where
  | negativeMoney (amount : Int)
  | moneyOverflow (lhs rhs : Int)
  | negativeThreshold (threshold : Int)
  | stockOverflow (product : ProductId)
  | quantityMismatch (reserved requested : Int)
  | unknownReservationStatus (text : String)
  | unknownChangeKind (text : String)
  | unknownOrderStatus (text : String)
  | missingField (field : ReceiverField)
  | longField (field : ReceiverField)
  | noLines
  | lineOverflow (product : ProductId)
  | discountTooLarge (discount : Int)
  | stated (text : String)
deriving DecidableEq, Repr

def ValueFault.message : ValueFault → String
  | negativeMoney amount => s!"金額は0以上である必要があります: {amount}"
  | moneyOverflow lhs rhs => s!"金額が上限を超えます: {lhs} と {rhs}"
  | negativeThreshold threshold => s!"しきい値は0以上である必要があります: {threshold}"
  | stockOverflow product =>
    s!"商品 {product} の在庫数が上限 {Width.int32.greatest} を超えます"
  | quantityMismatch reserved requested =>
    s!"予約数量 {reserved} と要求数量 {requested} が一致しません"
  | unknownReservationStatus text => s!"無効な予約ステータス: {text}"
  | unknownChangeKind text => s!"無効な在庫変動種別: {text}"
  | unknownOrderStatus text => s!"無効な注文ステータス: {text}"
  | missingField field => s!"{field.label}は必須です"
  | longField field => s!"{field.label}は{field.maxLength}文字以内で入力してください"
  | noLines => "注文明細が空です"
  | lineOverflow product => s!"商品 {product} の数量の合計が上限を超えます"
  | discountTooLarge discount => s!"割引額 {discount} が支払金額を超えています"
  | stated text => text

/-- Why a business rule turns a request down. -/
inductive Refusal where
  | insufficientStock (product : ProductId) (available requested : Int)
  | invalidAdjustment (product : ProductId) (available delta : Int)
  | invalidMove (fault : MoveFault)
  | invalidQuantity (quantity : Int)
  | invalidValue (fault : ValueFault)
deriving DecidableEq, Repr

namespace Refusal

def message : Refusal → String
  | insufficientStock product available requested =>
    s!"product {product} insufficient stock, available: {available}, requested: {requested}"
  | invalidAdjustment product available delta =>
    s!"invalid adjustment for product {product}: available {available}, delta {delta}"
  | invalidMove fault => s!"Invalid state transition: {fault.message}"
  | invalidQuantity quantity => s!"Invalid quantity: {quantity}"
  | invalidValue fault => s!"Invalid value: {fault.message}"

end Refusal

/-- A quantity has to be at least 1. -/
def ensurePositive (quantity : Int) : Except Refusal Unit :=
  if quantity ≤ 0 then .error (.invalidQuantity quantity) else .ok ()

theorem ensurePositive_eq_ok_iff {quantity : Int} {u : Unit} :
    ensurePositive quantity = .ok u ↔ 0 < quantity := by
  unfold ensurePositive
  split <;> simp <;> omega

theorem ensurePositive_bind_of_nonpos {α : Type} {quantity : Int} {f : Unit → Except Refusal α}
    (h : quantity ≤ 0) : ensurePositive quantity >>= f = .error (.invalidQuantity quantity) := by
  rw [ensurePositive, if_pos h]
  rfl

/-- Reads the status of a reservation. -/
def ReservationStatus.ofText (text : String) : Except Refusal ReservationStatus :=
  match ofText? text with
  | some status => .ok status
  | none => .error (.invalidValue (.unknownReservationStatus text))

/-- Reads a kind of stock movement. -/
def ChangeKind.ofText (text : String) : Except Refusal ChangeKind :=
  match ofText? text with
  | some kind => .ok kind
  | none => .error (.invalidValue (.unknownChangeKind text))

/-- Reads the status of an order. -/
def OrderStatus.ofText (text : String) : Except Refusal OrderStatus :=
  match ofText? text with
  | some status => .ok status
  | none => .error (.invalidValue (.unknownOrderStatus text))

end Stockroom
