import Stockroom.Host.Error
import Stockroom.Refusal

/-!
# Service/Error — how a service call can end without a result

A call is refused by a business rule, finds nothing, finds too much, loses a race, loses too many
races, or meets a failing store.  Only a lost race is worth another attempt.
-/

namespace Stockroom

/-- What a call looked for and did not find. -/
inductive Subject where
  | stock (product : ProductId)
  | reservation (product : ProductId) (order : OrderId)
  | order (order : OrderId)
  | orderNumber (orderNo : String)
  | product (product : ProductId)
  | stated (text : String)
deriving DecidableEq, Repr

namespace Subject

def notFoundText : Subject → String
  | .stock id => s!"在庫が見つかりません: 商品 {id}"
  | .reservation productId orderId =>
    s!"予約が見つかりません: 商品 {productId}, 注文 {orderId}"
  | .order id => s!"注文が見つかりません: {id}"
  | .orderNumber orderNo => s!"注文が見つかりません: 注文番号 {orderNo}"
  | .product id => s!"商品が見つかりません: {id}"
  | .stated text => text

end Subject

/-- What is already there although it must not be. -/
inductive Clash where
  | stock (product : ProductId)
  | stated (text : String)
deriving DecidableEq, Repr

def Clash.text : Clash → String
  | .stock id => s!"在庫は既に存在します: 商品 {id}"
  | .stated text => text

/-- Which write came too late. -/
inductive LostRace where
  | stock (product : ProductId) (version : Int)
  | reservation (product : ProductId) (order : OrderId)
  | order (order : OrderId) (status : OrderStatus)
  | stated (text : String)
deriving DecidableEq, Repr

def LostRace.text : LostRace → String
  | .stock productId version =>
    s!"商品 {productId} の在庫が同時に更新されました (バージョン {version})"
  | .reservation productId orderId =>
    s!"商品 {productId} の注文 {orderId} に対する予約が同時に更新されました"
  | .order id status => s!"注文 {id} は既に {status} ではありません"
  | .stated text => text

/-- How a call ends without a result. -/
inductive ServiceError where
  | refused (refusal : Refusal)
  | notFound (subject : Subject)
  | alreadyExists (clash : Clash)
  | concurrentUpdate (race : LostRace)
  | retriesExhausted (attempts : Nat) (last : ServiceError)
  | storeFailed (error : StoreError)
deriving Repr

namespace ServiceError

def message : ServiceError → String
  | refused refusal => refusal.message
  | notFound subject => s!"Not found: {subject.notFoundText}"
  | alreadyExists clash => s!"Already exists: {clash.text}"
  | concurrentUpdate race => s!"concurrent update: {race.text}"
  | retriesExhausted attempts last => s!"failed after {attempts} retries: {last.message}"
  | storeFailed error => s!"Repository error: {error.message}"

/-- **Whether another attempt may succeed**: only after a lost race. -/
def isRetryable : ServiceError → Bool
  | concurrentUpdate _ => true
  | _ => false

/-- A failing store, with doubled keys and lost races told apart from the rest. -/
def ofStore : StoreError → ServiceError
  | .uniqueViolation detail => alreadyExists (.stated detail)
  | .conflict detail => concurrentUpdate (.stated detail)
  | error => storeFailed error

end ServiceError

end Stockroom
