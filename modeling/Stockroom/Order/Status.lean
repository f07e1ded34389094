/-!
# Order/Status — how far an order has come

An order is `pending`, then `paid`, `shipped` and `completed`; a pending one may be `cancelled`
instead.
-/

namespace Stockroom

/-- How far an order has come. -/
inductive OrderStatus where
  | pending
  | paid
  | shipped
  | completed
  | cancelled
deriving DecidableEq, Repr

namespace OrderStatus

def text : OrderStatus → String
  | pending => "pending"
  | paid => "paid"
  | shipped => "shipped"
  | completed => "completed"
  | cancelled => "cancelled"

instance : ToString OrderStatus := ⟨text⟩

def ofText? : String → Option OrderStatus
  | "pending" => some pending
  | "paid" => some paid
  | "shipped" => some shipped
  | "completed" => some completed
  | "cancelled" => some cancelled
  | _ => none

theorem ofText?_text (s : OrderStatus) : ofText? s.text = some s := by
  cases s <;> rfl

end OrderStatus

end Stockroom
